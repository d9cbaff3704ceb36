import ImportSurvey.Text.Cut

namespace ImportSurvey

/-- The file extensions and import patterns of a language. -/
structure Language where
  name : String
  aliases : List String
  extensions : List String
  patterns : List String
deriving DecidableEq, Repr

namespace Language

/-- The import forms of scripts for browsers and servers. -/
def scriptPatterns : List String := [
  r#"(?m)^\s*import\s+(?:[^'"]*?\s+from\s+)?['"]([^'"]+)['"]"#,
  r#"(?m)^\s*export\s+[^'"]*?\s+from\s+['"]([^'"]+)['"]"#,
  r#"require\(\s*['"]([^'"]+)['"]\s*\)"#,
  r#"import\(\s*['"]([^'"]+)['"]\s*\)"#]

def presets : List Language := [
  { name := "typescript", aliases := ["ts", "tsx"]
    extensions := ["ts", "tsx", "d.ts"], patterns := scriptPatterns },
  { name := "javascript", aliases := ["js", "jsx", "node"]
    extensions := ["js", "jsx", "mjs", "cjs"], patterns := scriptPatterns },
  { name := "python", aliases := ["py"], extensions := ["py"]
    patterns := [r"(?m)^\s*from\s+([\w.]+)\s+import\b", r"(?m)^\s*import\s+([\w.]+)"] },
  { name := "rust", aliases := ["rs"], extensions := ["rs"]
    patterns := [
      r"(?m)^\s*(?:pub(?:\([^)]*\))?\s+)?use\s+([\w:]+)",
      r"(?m)^\s*(?:pub(?:\([^)]*\))?\s+)?mod\s+(\w+)\s*;"] },
  { name := "go", aliases := ["golang"], extensions := ["go"]
    patterns := [
      r#"(?m)^\s*import\s+(?:\w+\s+)?"([^"]+)""#,
      r#"(?m)^\s+(?:\w+\s+)?"([^"]+)"\s*$"#] },
  { name := "c", aliases := ["cpp", "c++"], extensions := ["c", "h", "cc", "cpp", "hpp"]
    patterns := [r#"(?m)^\s*#\s*include\s+"([^"]+)""#] },
  { name := "css", aliases := ["scss", "less"], extensions := ["css", "scss", "less"]
    patterns := [r#"@import\s+(?:url\()?['"]([^'"]+)['"]"#] }]

/-- Whether two texts differ at most in the case of ASCII letters. -/
def sameName (a b : String) : Bool := a.toList.map Char.toLower == b.toList.map Char.toLower

/-- Whether `name` is the language's name or one of its aliases. -/
def isCalled (l : Language) (name : String) : Bool :=
  sameName l.name name || l.aliases.any (sameName · name)

/-- The preset with a given name or alias. -/
def preset? (name : String) : Option Language := presets.find? (·.isCalled name)

end Language

end ImportSurvey
