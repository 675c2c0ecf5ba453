import Attest.Auxdata.Trailer
import Attest.Base58

/-!
# What an auxdata says

The entries of an auxdata by name: content hashes of the metadata, the compiler's version, and for
newer Vyper the sizes of the parts of the code. A bytecode's sources are proved by an auxdata only
if it holds a content hash.
-/
namespace Attest

/-- Entries by name, in the order of the auxdata. -/
abbrev Contents := List (Cbor × Cbor)

namespace Contents

/-- The parts that an item lists: items, characters, bytes or keys. -/
def listed? : Cbor → Option (List Cbor)
  | .list items => some items
  | .text value => some (value.map fun c => .text [c])
  | .bytes value => some (value.map fun byte => .int byte.toNat)
  | .map entries => some (entries.map Prod.fst)
  | _ => none

/-- The parts of an item with points between them. -/
def dotted? (item : Cbor) : Option Cbor :=
  (listed? item).map fun parts => .text (List.intercalate ['.'] (parts.map Cbor.plain))

/-- A text key. -/
def key (name : String) : Cbor := .text name.toList

/-- Bytes as marked hexadecimal text. -/
def hexText (value : List UInt8) : Cbor := .text (Code.marked (Hex.writeBytes value))

/-- The version that a record of a Vyper compiler names. -/
def vyperVersion? : Cbor → Option Cbor
  | .map entries => (Cbor.entry? entries "vyper").bind dotted?
  | _ => none

/-- The text of an integrity hash. -/
def integrity : Cbor → Except Failure Cbor
  | .bytes value => .ok (hexText value)
  | .real value => .ok (.text (Code.marked value.hexText))
  | _ => .error (.fault .wrongKind)

/-- The sizes and the version that newer Vyper compilers list. -/
def vyperSizes (parts : List Cbor) : Except Failure Contents :=
  match parts with
  | [runtime, data, immutable, version] =>
    match listed? data, vyperVersion? version with
    | some data, some version =>
      .ok [(key "runtimeSize", runtime), (key "dataSizes", .list data),
        (key "immutableSize", immutable), (key "vyperVersion", version)]
    | _, _ => .error (.auxdata .layout)
  | _ => .error (.auxdata .layout)

/-- The contents of an item that a Vyper compiler wrote. -/
def ofVyper (style : AuxdataStyle) (item : Cbor) : Except Failure Contents :=
  if style = .vyper then
    match listed? item with
    | none => .error (.auxdata .layout)
    | some [hash, runtime, data, immutable, version] => do
      let hash ← integrity hash
      return (key "integrity", hash) :: (← vyperSizes [runtime, data, immutable, version])
    | some parts => vyperSizes parts
  else
    match vyperVersion? item with
    | some version => .ok [(key "vyperVersion", version)]
    | none => .error (.auxdata .layout)

/-- The address of a file by its content hash. -/
def contentAddress : Cbor → Except Failure Cbor
  | .bytes value => .ok (.text (Base58.encode value))
  | .text value =>
    if value.all (·.toNat < 0x80) then .ok (.text (Base58.encode (Utf8.encode value)))
    else .error (.fault .unencodable)
  | .list _ => .error (.fault .wrongKind)
  | .map _ => .error (.fault .wrongKind)
  | _ => .error (.fault .unsuitable)

/-- A compiler's version: a text of a release in progress as it stands, any other by its parts. -/
def compilerVersion (value : Cbor) : Except Failure Cbor :=
  match value with
  | .text _ => .ok value
  | value =>
    match dotted? value with
    | some version => .ok version
    | none => .error (.fault .unsuitable)

/-- The entry that an entry of an item stands for. -/
def solidityEntry (name value : Cbor) : Except Failure (Cbor × Cbor) :=
  if name.isText "ipfs" then return (name, ← contentAddress value)
  else if name.isText "solc" then return (key "solcVersion", ← compilerVersion value)
  else if name.isText "experimental" then .ok (name, value)
  else
    match value with
    | .bytes value => .ok (name, hexText value)
    | value => .ok (name, value)

/-- The contents of entries that a Solidity compiler wrote, after those known. -/
def ofEntries (known : Contents) : List (Cbor × Cbor) → Except Failure Contents
  | [] => .ok known
  | (name, value) :: rest => do
    let (name, value) ← solidityEntry name value
    ofEntries (Cbor.putEntry known name value) rest

/-- The contents of an item. -/
def ofItem (style : AuxdataStyle) (item : Cbor) : Except Failure Contents :=
  if style = .solidity then
    match item with
    | .map entries => ofEntries [] entries
    | _ => .error (.auxdata .notMap)
  else ofVyper style item

/-- The contents of the auxdata at the end of a bytecode. -/
def decode (bytecode : Code) (style : AuxdataStyle) : Except Failure Contents := do
  match (← split bytecode style).trailer with
  | none => .error (.auxdata .notFound)
  | some trailer => ofItem style trailer.item

/-- Whether an entry of a name says something. -/
def states (contents : Contents) (name : String) : Bool :=
  match Cbor.entry? contents name with
  | some value => value.holds
  | none => false

/-- Whether the contents fix the metadata by a content hash. -/
def hasContentHash (contents : Contents) : Bool :=
  contents.states "ipfs" || contents.states "bzzr0" || contents.states "bzzr1"

end Contents

end Attest
