import Flowmeter.HeaderField
import Flowmeter.Http.StartLine

/-!
# HTTP transactions

What a flow shows of one request and its response. Text values are cut to a capacity of octets,
never inside a character (`shorten`). Of the cookies that a response sets, the names are gathered
in one text, a separator after each, as long as there is room.
-/

namespace Flowmeter.Http

/-! ## Recorded values -/

/-- Greatest number of octets recorded of each text value. -/
structure Capacities where
  method : Nat
  host : Nat
  target : Nat
  userAgent : Nat
  referer : Nat
  contentType : Nat
  server : Nat
  cookieNames : Nat

def capacities : Capacities where
  method := 10
  host := 64
  target := 128
  userAgent := 128
  referer := 128
  contentType := 32
  server := 32
  cookieNames := 512

/-- A value as text, cut back to a capacity. A text can always be cut back (`cutBack?_encode`), so
the empty text never stands in. -/
def shorten (capacity : Nat) (value : View) : String :=
  let octets := Octets.ofText (String.ofList (Utf8.decodeLossy value.bytes))
  String.ofList ((Utf8.cutBack? capacity octets).getD [])

/-! ## Cookies -/

/-- Stands after every recorded cookie name; ends the name and each attribute of a cookie. -/
def cookieSeparator : Char := ';'

/-- Whether an octet ends the name of a cookie. -/
def endsCookieName (b : UInt8) : Bool :=
  b == 0x3D || b == 0x3B

/-- The name of the cookie that a value sets. -/
def cookieName (value : View) : Octets :=
  Octets.trim (value.bytes.takeWhile fun b => !endsCookieName b)

/-- Records a cookie name behind the names recorded so far, if there is room for it. An empty name
is not recorded. -/
def addCookieName (names : Option String) (name : Octets) : Option String :=
  if name.isEmpty then names
  else
    let recorded := names.getD ""
    if name.length + 1 ≤ capacities.cookieNames - recorded.utf8ByteSize then
      some ((recorded ++ String.ofList (Utf8.decodeLossy name)).push cookieSeparator)
    else some recorded

/-! ## Transactions -/

/-- What a flow has shown of a transaction. -/
structure Transaction where
  method : Option String := none
  host : Option String := none
  target : Option String := none
  userAgent : Option String := none
  referer : Option String := none
  status : Option UInt16 := none
  contentType : Option String := none
  server : Option String := none
  cookieNames : Option String := none
  requestSeen : Bool := false
  responseSeen : Bool := false
  deriving DecidableEq, Repr

namespace Transaction

def observeRequestField (t : Transaction) (field : HeaderField) : Transaction :=
  if field.isNamed "Host" then
    { t with host := some (shorten capacities.host field.value) }
  else if field.isNamed "User-Agent" then
    { t with userAgent := some (shorten capacities.userAgent field.value) }
  else if field.isNamed "Referer" then
    { t with referer := some (shorten capacities.referer field.value) }
  else t

def observeResponseField (t : Transaction) (field : HeaderField) : Transaction :=
  if field.isNamed "Content-Type" then
    { t with contentType := some (shorten capacities.contentType field.value) }
  else if field.isNamed "Server" then
    { t with server := some (shorten capacities.server field.value) }
  else if field.isNamed "Set-Cookie" then
    { t with cookieNames := addCookieName t.cookieNames (cookieName field.value) }
  else t

/-- Takes in a request: its line, then every field of its header block, complete or not. -/
def observeRequest (t : Transaction) (line : RequestLine) (fields : List HeaderField) :
    Transaction :=
  let started :=
    { t with
      method := some (shorten capacities.method line.method)
      target := some (shorten capacities.target line.target) }
  { fields.foldl observeRequestField started with requestSeen := true }

/-- Takes in a response: its status, then every field of its header block, complete or not. -/
def observeResponse (t : Transaction) (status : UInt16) (fields : List HeaderField) :
    Transaction :=
  { fields.foldl observeResponseField { t with status := some status } with responseSeen := true }

def observe (t : Transaction) (m : Message) : Transaction :=
  let fields := (HeaderField.tokenizer.tokens m.headers).1
  match m.startLine with
  | .request line => t.observeRequest line fields
  | .response status => t.observeResponse status fields

/-- Whether a message would overwrite what the transaction holds. -/
def collides (t : Transaction) (m : Message) : Bool :=
  match m.startLine with
  | .request _ => t.requestSeen
  | .response _ => t.responseSeen

/-- Whether both sides have been seen. -/
def isComplete (t : Transaction) : Bool :=
  t.requestSeen && t.responseSeen

end Transaction

end Flowmeter.Http
