import P11Prov.Object
import P11Prov.Text.Percent

/-!
# PKCS#11 URIs

Objects are named by URIs: `p11prov_obj_to_uri` writes the URI of an object and
`p11prov_parse_uri` reads one. The functions are those of `util.c`.

A C string is the list of its bytes, without the zero byte at its end. The
handlers of the parser get the component they parse: the source hands them the
rest of the URI with the length of the component, and none of them accepts
anything that goes on past the delimiter that follows. Memory is taken to be
there; lengths that are an `int` in the source are kept as such.
-/

namespace P11Prov

/-- The error codes of the parser. -/
inductive Errno
  | inval
  | range
  | noent
  deriving DecidableEq, Repr

/-! ## Reading -/

/-- `parse_attr`; the two digits are those of `hex_to_byte`. -/
def parseAttr (str : Bytes) : Except Errno Bytes :=
  match Percent.decode str with
  | some out => .ok out
  | none => .error .inval

/-- `parse_utf8str` -/
def parseUtf8str (str : Bytes) : Except Errno Bytes := do
  let out ← parseAttr str
  if 0 ∈ out then
    throw .inval
  return out

/-- `parse_class` -/
def parseClass (str : Bytes) : Except Errno Nat := do
  let typestr ← parseUtf8str str
  if typestr = ascii "data" then
    return Cko.data
  else if typestr = ascii "cert" then
    return Cko.certificate
  else if typestr = ascii "public" then
    return Cko.publicKey
  else if typestr = ascii "private" then
    return Cko.privateKey
  else if typestr = ascii "secret-key" then
    return Cko.secretKey
  else
    throw .inval

/-- The sign that `strtoul` accepts, and what is after it. -/
def takeSign : Bytes → Bool × Bytes
  | 0x2D :: str => (true, str)
  | 0x2B :: str => (false, str)
  | str => (false, str)

/-- `strtoul` with base ten: the value, and where it ends. -/
def strtoul (str : Bytes) : Except Errno (Nat × Bytes) :=
  let (neg, rest) := takeSign (str.dropWhile isSpace)
  let digits := rest.takeWhile isDigit
  let val := digits.foldl (fun n d => 10 * n + (d - 0x30).toNat) 0
  if digits.isEmpty then .ok (0, str)
  else if 0xFFFFFFFFFFFFFFFF < val then .error .range
  else
    .ok (if neg then (0x10000000000000000 - val) % 0x10000000000000000 else val,
      rest.dropWhile isDigit)

/-- `parse_ulong` -/
def parseUlong (str : Bytes) : Except Errno Nat := do
  let (val, rest) ← strtoul str
  if rest ≠ [] then
    throw .inval
  return val

/-- One of the numbers of a version. -/
def parseVersionNumber (str : Bytes) : Except Errno UInt8 := do
  let val ← parseUlong str
  if 255 < val then
    throw .inval
  return val.toUInt8

/-- `parse_version` -/
def parseVersion (str : Bytes) : Except Errno Version := do
  if str.length < 3 ∨ 7 < str.length then
    throw .inval
  if 0x2E ∉ str then
    throw .inval
  let major ← parseVersionNumber (str.takeWhile (· ≠ 0x2E))
  let minor ← parseVersionNumber ((str.dropWhile (· ≠ 0x2E)).drop 1)
  return { major, minor }

/-- What the first line of a file gives, or why it cannot be read. -/
abbrev PinFiles := Bytes → Except Errno Bytes

/-- `get_pin_file` -/
def getPinFile (files : PinFiles) (str : Bytes) : Except Errno Pin := do
  let pinfile ← parseAttr str
  let filename ←
    if pinfile.take 5 = ascii "file:" then pure (pinfile.drop 5)
    else if pinfile.take 1 = ascii "|" then throw .inval
    else pure pinfile
  let pin ← files (filename.takeWhile (· ≠ 0))
  -- files may contain newlines, remove any at the end
  let pin := (pin.reverse.dropWhile fun c => c = 0x0A ∨ c = 0x0D).reverse
  return pin.takeWhile (· ≠ 0)

/-- `struct uri_components`: the name of a component, and what its handler makes of its
    value. -/
structure UriComponent where
  attr : Bytes
  handler : Bytes → Uri → Except Errno Uri

/-- The table of `p11prov_parse_uri`. -/
def ucmap (files : PinFiles) : List UriComponent :=
  [⟨ascii "library-description", fun str u => do
      return { u with libraryDescription := some (← parseUtf8str str) }⟩,
    ⟨ascii "library-manufacturer", fun str u => do
      return { u with libraryManufacturer := some (← parseUtf8str str) }⟩,
    ⟨ascii "library-version", fun str u => do
      return { u with libraryVersion := ← parseVersion str }⟩,
    ⟨ascii "token", fun str u => do return { u with token := some (← parseUtf8str str) }⟩,
    ⟨ascii "manufacturer", fun str u => do
      return { u with manufacturer := some (← parseUtf8str str) }⟩,
    ⟨ascii "model", fun str u => do return { u with model := some (← parseUtf8str str) }⟩,
    ⟨ascii "serial", fun str u => do return { u with serial := some (← parseUtf8str str) }⟩,
    ⟨ascii "slot-description", fun str u => do
      return { u with slotDescription := some (← parseUtf8str str) }⟩,
    ⟨ascii "slot-id", fun str u => do return { u with slotId := ← parseUlong str }⟩,
    ⟨ascii "slot-manufacturer", fun str u => do
      return { u with slotManufacturer := some (← parseUtf8str str) }⟩,
    ⟨ascii "id", fun str u => do return { u with id := some (← parseAttr str) }⟩,
    ⟨ascii "object", fun str u => do return { u with object := some (← parseUtf8str str) }⟩,
    ⟨ascii "type", fun str u => do return { u with type := ← parseClass str }⟩,
    ⟨ascii "pin-value", fun str u => do return { u with pin := some (← parseUtf8str str) }⟩,
    ⟨ascii "pin-source", fun str u => do return { u with pin := some (← getPinFile files str) }⟩,
    ⟨ascii "object-type", fun str u => do return { u with type := ← parseClass str }⟩]

/-- The bytes at which `p11prov_parse_uri` cuts a URI. -/
def isUriDelim (c : UInt8) : Bool := c = 0x3B ∨ c = 0x3F ∨ c = 0x26

/-- One round of the loop of `p11prov_parse_uri`; what is not in the table is ignored. -/
def parseComponent (files : PinFiles) (u : Uri) (p : Bytes) : Except Errno Uri :=
  match (ucmap files).find? fun c => (c.attr ++ [0x3D]).isPrefixOf p with
  | some c => c.handler (p.drop (c.attr.length + 1)) u
  | none => .ok u

/-- `p11prov_parse_uri` -/
def parseUri (files : PinFiles) (uri : Bytes) : Option Uri :=
  if uri.take 7 = ascii "pkcs11:" then
    (((uri.drop 7).splitOnP isUriDelim).foldlM (parseComponent files) {}).toOption
  else none

/-! ## Writing -/

/-- What `byte_to_hex` escapes: everything in a binary component. -/
def escapes (bin : Bool) (c : UInt8) : Bool :=
  bin ∨ c < 0x27 ∨ c = 0x2F ∨ c = 0x3B ∨ c = 0x3F ∨ 0x7E < c

/-- `uri_component`, for a value that is not empty. -/
def uriComponent (name val : Bytes) : Bytes :=
  -- the only name of two bytes is that of the id
  let bin := name.length == 2
  name ++ 0x3D :: Percent.encode (escapes bin) val ++ [0x3B]

/-- A component that is left out if its value is empty. -/
def uriComponent? (name val : Bytes) : Bytes :=
  if val.isEmpty then [] else uriComponent name val

/-- What a component adds to the size hint: its length without the delimiter. -/
def componentHint (component : Bytes) : Nat := component.length - 1

/-- `INT_MAX` -/
abbrev intMax : Nat := 0x7FFFFFFF

/-- The conversion of an integer to `int`. -/
def toInt (n : Int) : Int := n.bmod 0x100000000

/-- What `vsnprintf` returns for a text: its length, if that is an `int`. -/
def vsnprintf (text : Bytes) : Int := if text.length ≤ intMax then text.length else -1

/-- The attempts of `p11prov_alloc_sprintf`. -/
def sprintfAttempts (text : Bytes) : Nat → Int → Option Bytes
  | 0, _ => none
  | n + 1, sizeHint =>
    let ret := vsnprintf text
    if sizeHint ≤ ret then sprintfAttempts text n (toInt (ret + 1))
    else if ret < 0 then none
    else some text

/-- `p11prov_alloc_sprintf`, where `text` is what the format and its arguments make. -/
def allocSprintf (sizeHint : Int) (text : Bytes) : Option Bytes := sprintfAttempts text 2 sizeHint

/-- The name of a class in a URI. -/
def uriType (cls : Nat) : Option Bytes :=
  if cls = Cko.data then some (ascii "data")
  else if cls = Cko.certificate then some (ascii "cert")
  else if cls = Cko.publicKey then some (ascii "public")
  else if cls = Cko.privateKey then some (ascii "private")
  else if cls = Cko.secretKey then some (ascii "secret-key")
  else none

/-- The components of the URI of an object, each of them empty if it is left out. -/
def Obj.uriComponents (obj : Obj) (slot : Slot) : List Bytes :=
  [uriComponent? (ascii "model") (cString 16 slot.model),
    uriComponent? (ascii "manufacturer") (cString 32 slot.manufacturer),
    uriComponent? (ascii "serial") (cString 16 slot.serialNumber),
    uriComponent? (ascii "token") (cString 32 slot.label),
    uriComponent? (ascii "id") ((obj.getAttr ckaId).getD []),
    uriComponent? (ascii "object") ((obj.getAttr ckaLabel).getD [])]

/-- The text that `p11prov_obj_to_uri` formats. -/
def Obj.uriText (obj : Obj) (slot : Slot) (type : Bytes) : Bytes :=
  ascii "pkcs11:" ++ (obj.uriComponents slot).flatten ++ ascii "type=" ++ type

/-- The size hint of `p11prov_obj_to_uri`; `sizeof` counts the zero bytes of the literals. -/
def Obj.uriSizeHint (obj : Obj) (slot : Slot) (type : Bytes) : Nat :=
  ((obj.uriComponents slot).map componentHint).sum + 8 + 6 + type.length

/-- `p11prov_obj_to_uri` -/
def objToUri (ctx : Ctx) (obj : Obj) : Option Bytes := do
  let type ← uriType obj.cls
  let slot ← ctx.getSlotById obj.slotid
  allocSprintf (toInt (obj.uriSizeHint slot type)) (obj.uriText slot type)

end P11Prov
