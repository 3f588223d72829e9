/-
# Command line options

The settings of the program.  Each has a flag, most an environment variable, and all but two a
default; a value is checked when it is set (`Options.set`).
-/
import InjectionWebhook.Admission.Owner
import InjectionWebhook.Text.ControlSequence
import InjectionWebhook.Text.Line
import InjectionWebhook.Text.SocketAddress

namespace InjectionWebhook

/-! ## 1. Log formats -/

/-- How log records are written. -/
inductive LogFormat where
  | text
  | json
deriving DecidableEq

namespace LogFormat

/-- The format used where none is named. -/
def default : LogFormat := .text

/-- The format with a name in any case, or the words of its refusal. -/
def ofName (name : String) : Except String LogFormat :=
  let lower := name.map Char.toLower
  if lower = "text" then .ok .text
  else if lower = "json" then .ok .json
  else .error ("unknown log format '" ++ lower ++ "', expected 'text' or 'json'")

end LogFormat

namespace Command

/-! ## 2. Settings -/

/-- A setting that takes a value. -/
inductive Setting where
  | listenAddr | tlsCert | tlsKey | namespace_ | podName | image | csiDriverName
  | admissionTimeoutSecs | maxOwnerDepth | logFormat
deriving DecidableEq

namespace Setting

/-- All settings, in the order in which their environment variables are looked at. -/
def all : List Setting :=
  [.listenAddr, .tlsCert, .tlsKey, .namespace_, .podName, .image, .csiDriverName,
   .admissionTimeoutSecs, .maxOwnerDepth, .logFormat]

/-- The flag of a setting, without dashes in front. -/
def flag : Setting → String
  | .listenAddr => "listen-addr"
  | .tlsCert => "tls-cert"
  | .tlsKey => "tls-key"
  | .namespace_ => "namespace"
  | .podName => "pod-name"
  | .image => "image"
  | .csiDriverName => "csi-driver-name"
  | .admissionTimeoutSecs => "admission-timeout-secs"
  | .maxOwnerDepth => "max-owner-depth"
  | .logFormat => "log-format"

/-- The environment variable of a setting. -/
def variable_ : Setting → Option String
  | .listenAddr => some "BEACON_LISTEN_ADDR"
  | .tlsCert => some "BEACON_TLS_CERT"
  | .tlsKey => some "BEACON_TLS_KEY"
  | .namespace_ => some "POD_NAMESPACE"
  | .podName => some "POD_NAME"
  | .image => some "BEACON_IMAGE"
  | .csiDriverName => some "BEACON_CSI_DRIVER_NAME"
  | .admissionTimeoutSecs => none
  | .maxOwnerDepth => none
  | .logFormat => some "BEACON_LOG_FORMAT"

/-- The setting with a flag. -/
def ofFlag? (flag : String) : Option Setting := all.find? (·.flag = flag)

/-- A setting as messages show it: the flag, and a placeholder for its value. -/
def shown (s : Setting) : String :=
  let placeholder := s.flag.map fun c => if c = '-' then '_' else c.toUpper
  "--" ++ s.flag ++ " <" ++ placeholder ++ ">"

end Setting

/-! ## 3. Mistakes -/

/-- What is wrong with the arguments. -/
inductive Mistake where
  | invalidValue (setting : Setting) (value why : String)
  | unexpectedArgument (argument : String)
  | unexpectedValue (value flag : String)
  | missingValue (setting : Setting)
  | repeated (shown : String)

/-- A text as a terminal shows it with emphasis. -/
def emphasised (s : String) : String := "\x1b[1m" ++ s ++ "\x1b[0m"

/-- The text of a mistake, for a terminal. -/
def Mistake.message : Mistake → String
  | .invalidValue s value why =>
    "invalid value '" ++ emphasised value ++ "' for '" ++ emphasised s.shown ++ "': " ++ why
  | .unexpectedArgument a => "unexpected argument '" ++ emphasised a ++ "' found"
  | .unexpectedValue value flag =>
    "unexpected value '" ++ emphasised value ++ "' for '" ++ emphasised flag ++
      "' found; no more were expected"
  | .missingValue s =>
    "a value is required for '" ++ emphasised s.shown ++ "' but none was supplied"
  | .repeated shown => "the argument '" ++ emphasised shown ++ "' cannot be used multiple times"

/-- What is reported about a mistake, for a terminal. -/
def Mistake.fullReport (m : Mistake) : String :=
  emphasised "error:" ++ " " ++ m.message ++ "\n\nFor more information, try '" ++
    emphasised "--help" ++ "'.\n"

/-- The first line of what is reported where there is no terminal.  Values are shown as they were
given, so their own control sequences are taken out with those of the report. -/
def Mistake.report (m : Mistake) : String := Text.firstLine (Text.plain m.fullReport)

/-! ## 4. Values -/

/-- The number after the digits of `n` and one more character, or what is wrong with it.  Numbers
have 64 bits. -/
def nextDigit (n : Nat) (c : Char) : Except String Nat :=
  if !c.isDigit then .error "invalid digit found in string"
  else
    let next := 10 * n + (c.toNat - 48)
    if UInt64.size ≤ next then .error "number too large to fit in target type" else .ok next

/-- The number a text stands for: digits, with a plus sign in front if you like. -/
def wordNumber (text : String) : Except String Nat :=
  match text.toList with
  | [] => .error "cannot parse integer from empty string"
  | ['+'] => .error "invalid digit found in string"
  | '+' :: ds => ds.foldlM nextDigit 0
  | ds => ds.foldlM nextDigit 0

/-- Everything that is set. -/
structure Options where
  listenAddr : SocketAddress := .v4 [0, 0, 0, 0] 8443
  tlsCert : String := "/tmp/webhook/certs/tls.crt"
  tlsKey : String := "/tmp/webhook/certs/tls.key"
  namespace_ : String := "beacon"
  podName : Option String := none
  image : Option String := none
  csiDriverName : String := defaultDriver
  admissionTimeoutSecs : Nat := 10
  maxOwnerDepth : Nat := Owner.defaultDepth
  logFormat : LogFormat := .default

/-- Sets a value. -/
def Options.set (o : Options) (s : Setting) (value : String) : Except Mistake Options :=
  let parsed {α : Type} (r : Except String α) (f : α → Options) : Except Mistake Options :=
    match r with
    | .ok a => .ok (f a)
    | .error why => .error (.invalidValue s value why)
  match s with
  | .listenAddr =>
    parsed ((SocketAddress.ofText? value).elim (.error "invalid socket address syntax") .ok)
      fun a => { o with listenAddr := a }
  | .tlsCert => if value.isEmpty then .error (.missingValue s) else .ok { o with tlsCert := value }
  | .tlsKey => if value.isEmpty then .error (.missingValue s) else .ok { o with tlsKey := value }
  | .namespace_ => .ok { o with namespace_ := value }
  | .podName => .ok { o with podName := some value }
  | .image => .ok { o with image := some value }
  | .csiDriverName => .ok { o with csiDriverName := value }
  | .admissionTimeoutSecs => parsed (wordNumber value) fun n => { o with admissionTimeoutSecs := n }
  | .maxOwnerDepth => parsed (wordNumber value) fun n => { o with maxOwnerDepth := n }
  | .logFormat => parsed (LogFormat.ofName value) fun f => { o with logFormat := f }

end Command
end InjectionWebhook
