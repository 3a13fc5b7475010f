import ReviewGate.Pattern.Library

/-!
# Default rules

The curated rules a library starts from.  Those of critical severity block on their own.
-/

namespace ReviewGate

/-- What tells one default rule from another. -/
structure Seed where
  id : String
  name : String
  weakness : Weakness
  severity : Severity
  matcher : Matcher
  description : String

namespace Seed

private def dynamicCall (callee : String) : Matcher := .shape (.dynamicCall callee)

def all : List Seed :=
  [⟨"ARITH-001", "Division by Zero (Literal)", .arithmetic, .high,
     .text "/\\s*0\\s*($|[;#,\\)\\]])",
     "Potential division by literal zero (CWE-369)"⟩,
   ⟨"ARITH-002", "Division by Variable (Unchecked)", .arithmetic, .medium,
     .text "(?:^|[^/*])/\\s*[a-zA-Z_]\\w*\\s*(?:$|[^!=<>])",
     "Division by variable without zero-check guard (CWE-369)"⟩,
   ⟨"ARITH-003", "Integer Overflow Risk", .arithmetic, .medium,
     .text "\\*\\s*\\d\x7b10,\x7d|\\d\x7b10,\x7d\\s*\\*",
     "Multiplication with very large literal (CWE-190)"⟩,
   ⟨"MEM-001", "Unsafe Index Access", .memory, .medium,
     .text "\\[\\s*-\\d+\\s*\\]",
     "Negative index access (CWE-125)"⟩,
   ⟨"MEM-002", "Hardcoded Large Index", .memory, .low,
     .text "\\[\\s*\\d\x7b4,\x7d\\s*\\]",
     "Very large hardcoded index (CWE-129)"⟩,
   ⟨"INJ-001", "SQL Injection (f-string)", .injection, .critical,
     .text "execute\\s*\\(\\s*f[\"'].*\\\x7b",
     "SQL query built with f-string interpolation (CWE-89)"⟩,
   ⟨"INJ-002", "SQL Injection (format)", .injection, .critical,
     .text "execute\\s*\\(.*\\.format\\s*\\(",
     "SQL query built with .format() (CWE-89)"⟩,
   ⟨"INJ-003", "SQL Injection (concat)", .injection, .critical,
     .text "execute\\s*\\([^)]*\\+",
     "SQL query built with string concatenation (CWE-89)"⟩,
   ⟨"INJ-004", "Command Injection (os.system)", .injection, .critical,
     dynamicCall "os.system",
     "Shell command with dynamic input (CWE-78)"⟩,
   ⟨"INJ-005", "Command Injection (subprocess)", .injection, .high,
     .text "subprocess\\.(call|run|Popen)\\s*\\(\\s*[^\"'][^)]*\\+",
     "Subprocess with dynamic command string (CWE-78)"⟩,
   ⟨"INJ-006", "Code Injection (eval)", .injection, .critical,
     dynamicCall "eval",
     "eval() with variable input (CWE-94)"⟩,
   ⟨"INJ-007", "Code Injection (exec)", .injection, .critical,
     dynamicCall "exec",
     "exec() with variable input (CWE-94)"⟩,
   ⟨"CRYPTO-001", "Hardcoded API Key (Stripe)", .crypto, .critical,
     .text "sk_(live|test)_[0-9a-zA-Z]\x7b20,\x7d",
     "Stripe secret key in source code (CWE-798)"⟩,
   ⟨"CRYPTO-002", "Hardcoded API Key (AWS)", .crypto, .critical,
     .text "AKIA[0-9A-Z]\x7b16\x7d",
     "AWS access key in source code (CWE-798)"⟩,
   ⟨"CRYPTO-003", "Hardcoded API Key (GitHub)", .crypto, .critical,
     .text "ghp_[0-9a-zA-Z]\x7b36\x7d",
     "GitHub personal access token in source code (CWE-798)"⟩,
   ⟨"CRYPTO-004", "Hardcoded Password", .crypto, .high,
     .text "password\\s*=\\s*[\"'][^\"']\x7b4,\x7d[\"']",
     "Hardcoded password assignment (CWE-259)"⟩,
   ⟨"CRYPTO-005", "Weak Hash (MD5)", .crypto, .medium,
     .text "hashlib\\.md5\\s*\\(",
     "MD5 hash, cryptographically broken (CWE-328)"⟩,
   ⟨"CRYPTO-006", "Weak Hash (SHA1)", .crypto, .low,
     .text "hashlib\\.sha1\\s*\\(",
     "SHA1 hash, weak for security purposes (CWE-328)"⟩,
   ⟨"RES-001", "Unclosed File", .resource, .low,
     .text "open\\s*\\([^)]+\\)\\s*$",
     "File opened without context manager (CWE-404)"⟩,
   ⟨"LOGIC-001", "Impossible Condition", .logic, .low,
     .text "if\\s+False\\s*:",
     "Condition that is always false (CWE-570)"⟩,
   ⟨"LOGIC-002", "Always True Condition", .logic, .low,
     .text "if\\s+True\\s*:",
     "Condition that is always true (CWE-571)"⟩,
   ⟨"LOGIC-003", "Useless Comparison", .logic, .low,
     .text "\\bx\\s*==\\s*x\\b|\\bx\\s*!=\\s*x\\b",
     "Variable compared to itself (CWE-697)"⟩]

/-- The rule of a seed, made at some time. -/
def toRule (now : Instant) (seed : Seed) : Rule where
  id := seed.id
  name := seed.name
  weakness := seed.weakness
  severity := seed.severity
  hardBlock := seed.severity == .critical
  matcher := seed.matcher
  description := seed.description
  origin := .manual
  active := true
  supersededBy := none
  version := 0
  createdAt := now

end Seed

def defaultRules (now : Instant) : List Rule := Seed.all.map (Seed.toRule now)

namespace Library

def withDefaultRules (now : Instant) : Except LibraryError Library :=
  ofRules (defaultRules now)

end Library

end ReviewGate
