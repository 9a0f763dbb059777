import DsspBot.Daemon.Basic
import DsspBot.File
import DsspBot.Lib.Arrivals
import DsspBot.Lib.Lines
import DsspBot.Lib.Words

/-!
# Http — reading one request off a connection

The header block is read byte by byte, so nothing behind it is taken. Then it is checked line by
line, and the body is read in pieces of whatever size arrives.
-/

namespace DsspBot

def HEADER_LIMIT : Nat := 16 * 1024
def BODY_LIMIT : Nat := 64 * 1024

/-- Why no more bytes come. -/
inductive Silence
  | closed
  /-- The deadline, or the timeout of a read. -/
  | stalled
  | broken (text : String)
  deriving DecidableEq, Repr

abbrev Connection := Arrivals UInt8 Silence

def Silence.reply : Silence → HttpReply
  | .closed => httpError 400 "incomplete request"
  | .stalled => httpError 408 "request read timeout"
  | .broken text => httpError 400 text

structure HttpRequest where
  method : String
  path : String
  /-- By lower-cased names, of which none comes twice. -/
  headers : List (String × String)
  body : List UInt8
  deriving DecidableEq, Repr

def header (headers : List (String × String)) (name : String) : Option String :=
  (headers.find? fun entry => decide (entry.1 = name)).map (·.2)

/-! ## Bytes -/

def CR : UInt8 := 13
def LF : UInt8 := 10

def CRLFCRLF : List UInt8 := [CR, LF, CR, LF]

/-- The text of bytes below 128. -/
def ascii (bytes : List UInt8) : String :=
  String.ofList (bytes.map fun b => Char.ofNat b.toNat)

def isAlphanumeric (b : UInt8) : Bool :=
  decide ((48 ≤ b ∧ b ≤ 57) ∨ (65 ≤ b ∧ b ≤ 90) ∨ (97 ≤ b ∧ b ≤ 122))

def httpToken (b : UInt8) : Bool :=
  isAlphanumeric b || decide (b ∈ "!#$%&'*+-.^_`|~".toList.map fun c => UInt8.ofNat c.toNat)

/-- Visible, not a blank. -/
def isGraphic (b : UInt8) : Bool :=
  decide (33 ≤ b ∧ b ≤ 126)

def toLower (b : UInt8) : UInt8 :=
  if 65 ≤ b ∧ b ≤ 90 then b + 32 else b

def isContinuation (b : UInt8) : Bool :=
  decide (128 ≤ b ∧ b ≤ 191)

/-- `std::str::from_utf8` accepts the bytes. -/
def isUtf8 : List UInt8 → Bool
  | [] => true
  | [a] => decide (a < 128)
  | [a, b] => if a < 128 then isUtf8 [b] else decide (194 ≤ a ∧ a ≤ 223) && isContinuation b
  | [a, b, c] =>
      if a < 128 then isUtf8 [b, c]
      else if 194 ≤ a ∧ a ≤ 223 then isContinuation b && isUtf8 [c]
      else isUtf8Three a b && isContinuation c
  | a :: b :: c :: d :: rest =>
      if a < 128 then isUtf8 (b :: c :: d :: rest)
      else if 194 ≤ a ∧ a ≤ 223 then isContinuation b && isUtf8 (c :: d :: rest)
      else if isUtf8Three a b then isContinuation c && isUtf8 (d :: rest)
      else isUtf8Four a b && isContinuation c && isContinuation d && isUtf8 rest
where
  /-- The first two bytes of three. -/
  isUtf8Three (a b : UInt8) : Bool :=
    decide ((a = 224 ∧ 160 ≤ b ∧ b ≤ 191) ∨ (a = 237 ∧ 128 ≤ b ∧ b ≤ 159)) ||
      (decide ((225 ≤ a ∧ a ≤ 236) ∨ a = 238 ∨ a = 239) && isContinuation b)
  /-- The first two bytes of four. -/
  isUtf8Four (a b : UInt8) : Bool :=
    decide ((a = 240 ∧ 144 ≤ b ∧ b ≤ 191) ∨ (a = 244 ∧ 128 ≤ b ∧ b ≤ 143)) ||
      (decide (241 ≤ a ∧ a ≤ 243) && isContinuation b)

/-! ## Reading -/

def readPiece (size : Nat) (stream : Connection) : Except HttpReply (List UInt8) × Connection :=
  ((stream.read size).1.mapError Silence.reply, (stream.read size).2)

/-- Up to the first empty line, with room for `left` more bytes. -/
def readHead : Nat → List UInt8 → Connection → Except HttpReply (List UInt8) × Connection
  | left, data, stream =>
      if CRLFCRLF <:+ data then (.ok data, stream)
      else
        match left with
        | 0 => (.error (httpError 413 "headers too large"), stream)
        | left + 1 =>
            match readPiece 1 stream with
            | (.ok piece, stream) => readHead left (data ++ piece) stream
            | (.error reply, stream) => (.error reply, stream)

/-- Until the body has its size. Every round adds at least a byte. -/
def readBody (size : Nat) :
    Nat → List UInt8 → Connection → Except HttpReply (List UInt8) × Connection
  | 0, body, stream => (.ok body, stream)
  | rounds + 1, body, stream =>
      if body.length < size then
        match readPiece (min (size - body.length) 4096) stream with
        | (.ok piece, stream) => readBody size rounds (body ++ piece) stream
        | (.error reply, stream) => (.error reply, stream)
      else
        (.ok body, stream)

/-! ## Checking -/

def isBlankByte (b : UInt8) : Bool :=
  decide (b = 32 ∨ b = 9)

/-- `line.split_once(':')`. -/
def splitColon (line : List UInt8) : Option (List UInt8 × List UInt8) :=
  match line.dropWhile (· ≠ 58) with
  | [] => none
  | _ :: value => some (line.takeWhile (· ≠ 58), value)

def badValue (value : List UInt8) : Bool :=
  value.any fun b => decide ((b < 32 ∧ b ≠ 9) ∨ 127 ≤ b)

def addHeader (headers : List (String × String)) (line : List UInt8) :
    Except HttpReply (List (String × String)) :=
  match splitColon line with
  | none => .error (httpError 400 "invalid header")
  | some (key, value) =>
      if key.isEmpty || !key.all httpToken || badValue value then
        .error (httpError 400 "invalid header")
      else
        let name := ascii (key.map toLower)
        if (header headers name).isSome then
          .error (httpError 400 "duplicate header")
        else
          -- Only blanks and tabs are left to be trimmed.
          .ok (headers ++ [(name, ascii (Words.trim isBlankByte value))])

def isDigit (c : Char) : Bool :=
  decide ('0' ≤ c ∧ c ≤ '9')

def decimalValue (digits : String) : Nat :=
  digits.toList.foldl (fun value c => 10 * value + (c.toNat - '0'.toNat)) 0

def goodHost (host : String) : Bool :=
  decide (host ≠ "") && host.toList.all fun c => decide ('!' ≤ c ∧ c ≤ '~')

/-- The value of a `Content-Length`. -/
def contentLength (value : String) : Except HttpReply Nat :=
  if value = "" ∨ value.toList.all isDigit = false then
    .error (httpError 400 "invalid Content-Length")
  else if USIZE_END ≤ decimalValue value then
    .error (httpError 413 "body too large")
  else if BODY_LIMIT < decimalValue value then
    .error (httpError 413 "body exceeds 64 KB")
  else
    .ok (decimalValue value)

/-- The size of the body, once host and framing are accepted. -/
def bodySize (headers : List (String × String)) : Except HttpReply Nat :=
  if (header headers "host").any goodHost = false then
    .error (httpError 400 "one nonempty Host header required")
  else if (header headers "transfer-encoding").isSome ∨ (header headers "expect").isSome then
    .error (httpError 400 "unsupported framing")
  else
    match header headers "content-length" with
    | some value => contentLength value
    | none => .ok 0

def VERSION : List UInt8 := "HTTP/1.1".toList.map fun c => UInt8.ofNat c.toNat

def badRequestLine (method path version : List UInt8) : Bool :=
  decide (version ≠ VERSION) || method.isEmpty ||
    !method.all httpToken || decide (path.head? ≠ some 47) ||
      !path.all fun b => isGraphic b && decide (b ≠ 35)

structure RequestHead where
  method : String
  path : String
  headers : List (String × String)
  size : Nat
  deriving DecidableEq, Repr

def parseHead (data : List UInt8) : Except HttpReply RequestHead :=
  if !isUtf8 data then
    .error (httpError 400 "invalid headers")
  else
    match Lines.split CR LF data with
    | [] => .error (httpError 400 "invalid request line")
    | first :: lines =>
        match first.splitOn 32 with
        | [method, path, version] =>
            if badRequestLine method path version then
              .error (httpError 400 "invalid request line")
            else do
              let headers ← (lines.filter (· ≠ [])).foldlM addHeader []
              let size ← bodySize headers
              return { method := ascii method, path := ascii path, headers := headers
                       size := size }
        | _ => .error (httpError 400 "invalid request line")

def readRequest (stream : Connection) : Except HttpReply HttpRequest × Connection :=
  match readHead HEADER_LIMIT [] stream with
  | (.error reply, stream) => (.error reply, stream)
  | (.ok data, stream) =>
      match parseHead data with
      | .error reply => (.error reply, stream)
      | .ok head =>
          match readBody head.size head.size [] stream with
          | (.error reply, stream) => (.error reply, stream)
          | (.ok body, stream) =>
              (.ok { method := head.method, path := head.path, headers := head.headers
                     body := body }, stream)

end DsspBot
