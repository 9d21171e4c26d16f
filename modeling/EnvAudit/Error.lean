import EnvAudit.Files.Failure

/-!
# Errors

What can go wrong when files are scanned, sources are parsed or settings are
read, with a message for people and a code for programs.
-/

namespace EnvAudit

/-- Why a source could not be parsed. -/
inductive ParseError where
  | grammarLoad (dialect message : String)
  | invalidSource (path : String) (line column : Nat)
  | noTree (path : String)
  deriving BEq, DecidableEq, Repr, Inhabited

/-- Why files could not be collected or read. -/
inductive ScanError where
  | io (path : String) (failure : Failure)
  | unsupportedEncoding (path encoding : String)
  | ignoreFile (path message : String)
  deriving BEq, DecidableEq, Repr, Inhabited

/-- Why there are no usable settings. -/
inductive ConfigError where
  | fileNotFound (path : String)
  | malformed (path message : String)
  | invalid (field message : String)
  deriving BEq, DecidableEq, Repr, Inhabited

/-- Why a check failed. -/
inductive CheckError where
  | scan (error : ScanError)
  | parse (error : ParseError)
  | config (error : ConfigError)
  deriving BEq, DecidableEq, Repr, Inhabited

namespace ParseError

/-- The path that stands for a source that is in no file. -/
def inlineSource : String := "<source>"

def message : ParseError → String
  | grammarLoad dialect message => s!"Failed to load {dialect} grammar: {message}"
  | invalidSource path line column => s!"Syntax error in {path} at {line}:{column}"
  | noTree path => s!"Parser produced no syntax tree for {path}"

def code : ParseError → String
  | grammarLoad .. => "GRAMMAR_ERROR"
  | invalidSource .. | noTree _ => "PARSE_ERROR"

/-- The same error about the source in the given file. -/
def atPath (path : String) : ParseError → ParseError
  | invalidSource _ line column => invalidSource path line column
  | noTree _ => noTree path
  | grammarLoad dialect message => grammarLoad dialect message

end ParseError

namespace ScanError

def message : ScanError → String
  | io path failure => s!"IO error scanning {path}: {failure.message}"
  | unsupportedEncoding path encoding => s!"Unsupported encoding in {path}: {encoding}"
  | ignoreFile path message => s!"Invalid ignore rules in {path}: {message}"

def code : ScanError → String
  | io .. => "SCAN_ERROR"
  | unsupportedEncoding .. => "UNSUPPORTED_ENCODING"
  | ignoreFile .. => "IGNORE_FILE_ERROR"

end ScanError

namespace ConfigError

def message : ConfigError → String
  | fileNotFound path => s!"Config file not found: {path}"
  | malformed path message => s!"Config parse error in {path}: {message}"
  | invalid field message => s!"Config validation failed for {field}: {message}"

def code : ConfigError → String
  | fileNotFound _ | malformed .. | invalid .. => "CONFIG_ERROR"

end ConfigError

namespace CheckError

def message : CheckError → String
  | scan error => s!"Scan error: {error.message}"
  | parse error => s!"Parse error: {error.message}"
  | config error => s!"Configuration error: {error.message}"

def code : CheckError → String
  | scan error => error.code
  | parse error => error.code
  | config error => error.code

/-- The message behind the code in brackets. -/
def coded (error : CheckError) : String :=
  s!"[{error.code}] {error.message}"

/-- The messages of an error and of what caused it, the outermost first. -/
def chain : CheckError → List String
  | scan (.io path failure) =>
      [(scan (.io path failure)).message, (ScanError.io path failure).message, failure.message]
  | scan error => [(scan error).message, error.message]
  | parse error => [(parse error).message, error.message]
  | config error => [(config error).message, error.message]

end CheckError

end EnvAudit
