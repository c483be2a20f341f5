namespace SecureEcho

structure TlsSettings where
  caFile : String
  certFile : String
  keyFile : String
  verifyClient : Bool
deriving DecidableEq, Repr

structure LoggingSettings where
  level : String
deriving DecidableEq, Repr

structure FileSettings where
  tls : TlsSettings
  logging : LoggingSettings
deriving DecidableEq, Repr

def defaultCaFile : String := "../CA/root.pem"
def defaultCertFile : String := "../CA/server.crt"
def defaultKeyFile : String := "../CA/server.key"
def defaultLevel : String := "info"

-- What holds where there is no file, and for a section that the file leaves out. A section that is
-- there has a default for each of its fields instead.

def TlsSettings.byDefault : TlsSettings where
  caFile := defaultCaFile
  certFile := defaultCertFile
  keyFile := defaultKeyFile
  verifyClient := false

def LoggingSettings.byDefault : LoggingSettings where
  level := defaultLevel

def FileSettings.byDefault : FileSettings where
  tls := .byDefault
  logging := .byDefault

structure Arguments where
  host : String
  port : UInt16
  config : Option String := none
  caFile : Option String := none
  certFile : Option String := none
  keyFile : Option String := none
  verifyClient : Bool := false
  logLevel : String := defaultLevel
deriving DecidableEq, Repr

structure Settings where
  host : String
  port : UInt16
  tls : TlsSettings
  logLevel : String
deriving DecidableEq, Repr

-- The command line goes before the file, field by field, and client verification is on if either asks
-- for it. The level on the command line counts as given only if it differs from the default one.
def Arguments.resolve (arguments : Arguments) (file : FileSettings) : Settings :=
  { host := arguments.host
    port := arguments.port
    tls :=
      { caFile := arguments.caFile.getD file.tls.caFile
        certFile := arguments.certFile.getD file.tls.certFile
        keyFile := arguments.keyFile.getD file.tls.keyFile
        verifyClient := arguments.verifyClient || file.tls.verifyClient }
    logLevel := if arguments.logLevel ≠ defaultLevel then arguments.logLevel else file.logging.level }

end SecureEcho
