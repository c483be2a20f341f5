namespace SecureEcho

inductive Parameter where
  | host
  | port
  | config
  | caFile
  | certFile
  | keyFile
  | verifyClient
  | logLevel
  | help
  | version
deriving DecidableEq, Repr

namespace Parameter

def all : List Parameter :=
  [.host, .port, .config, .caFile, .certFile, .keyFile, .verifyClient, .logLevel, .help, .version]

-- The word after two dashes; the first two parameters have none and are told by their place.
def long? : Parameter → Option String
  | .host | .port => none
  | .config => some "config"
  | .caFile => some "ca-file"
  | .certFile => some "cert-file"
  | .keyFile => some "key-file"
  | .verifyClient => some "verify-client"
  | .logLevel => some "log-level"
  | .help => some "help"
  | .version => some "version"

def short? : Parameter → Option Char
  | .config => some 'c'
  | .help => some 'h'
  | .version => some 'V'
  | _ => none

def value? : Parameter → Option String
  | .host => some "<HOST>"
  | .port => some "<PORT>"
  | .config => some "<CONFIG>"
  | .caFile => some "<CA_FILE>"
  | .certFile => some "<CERT_FILE>"
  | .keyFile => some "<KEY_FILE>"
  | .logLevel => some "<LOG_LEVEL>"
  | .verifyClient | .help | .version => none

def purpose : Parameter → String
  | .host => "Host name or IPv4 address to listen on"
  | .port => "Port number to listen on"
  | .config => "Path to TOML configuration file"
  | .caFile => "PEM file with the root CA certificate(s)"
  | .certFile => "PEM file with the server certificate chain"
  | .keyFile => "PEM file with the server private key"
  | .verifyClient => "Require clients to present a certificate signed by the root CA"
  | .logLevel => "Log level (trace, debug, info, warn, error) [default: info]"
  | .help => "Print help"
  | .version => "Print version"

def describe (parameter : Parameter) : String :=
  match parameter.long?, parameter.value? with
  | some long, some value => s!"--{long} {value}"
  | some long, none => s!"--{long}"
  | none, value => value.getD ""

def heading (parameter : Parameter) : String :=
  match parameter.short? with
  | some letter => s!"-{letter}, {parameter.describe}"
  | none => s!"    {parameter.describe}"

def ofLong? (word : String) : Option Parameter := all.find? fun parameter => parameter.long? == some word

def ofShort? (letter : Char) : Option Parameter :=
  all.find? fun parameter => parameter.short? == some letter

end Parameter

namespace Usage

def programName : String := "tls-echo"

def versionText : String := s!"{programName} 0.1.0\n"

def table (rows : List (String × String)) : String :=
  let width := rows.foldl (fun widest row => max widest row.1.length) 0
  String.join (rows.map fun (heading, purpose) =>
    let gap := String.ofList (List.replicate (width - heading.length) ' ')
    s!"  {heading}{gap}  {purpose}\n")

def usageLine : String := s!"Usage: {programName} [OPTIONS] <HOST> <PORT>\n"

def helpText : String :=
  let (options, arguments) := Parameter.all.partition fun parameter => parameter.long?.isSome
  "A buffering TLS echo server\n\n" ++ usageLine ++ "\n" ++
  "Arguments:\n" ++ table (arguments.map fun parameter => (parameter.describe, parameter.purpose)) ++
  "\nOptions:\n" ++ table (options.map fun parameter => (parameter.heading, parameter.purpose))

end Usage

end SecureEcho
