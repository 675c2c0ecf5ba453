import Attest.Code
import Attest.Keccak
import Attest.Text.Hex
import Attest.Text.Utf8

/-!
# Placeholders of libraries

What a compiler writes where the address of a library belongs: a digest of the library's full name,
or in older compilers the name itself, or nothing but zeros. Each is as long as an address, so a
slot keeps its size when it is filled (`length_named`).
-/
namespace Attest.Placeholder

/-- The number of digits of an address. -/
def addressDigits : Nat := 40

/-- The placeholder that holds part of the digest of a full name. -/
def hashed (name : String) : Code :=
  '_' :: '_' :: '$' ::
    ((Hex.writeBytes (Keccak.digest (Utf8.encode name.toList))).take 34 ++ ['$', '_', '_'])

/-- The placeholder that holds the full name, cut or filled up. -/
def named (name : String) : Code :=
  let shown := name.toList.take 36
  '_' :: '_' :: (shown ++ List.replicate (38 - shown.length) '_')

/-- The placeholder of an address not yet known to any tool. -/
def zeros : Code := List.replicate addressDigits '0'

/-- The placeholders that may stand for a library. -/
def accepted (name : String) : List Code := [hashed name, named name, zeros]

/-- A placeholder with the name is as long as an address. -/
theorem length_named (name : String) : (named name).length = addressDigits := by
  simp only [named, addressDigits, List.length_cons, List.length_append, List.length_replicate,
    List.length_take]
  omega

end Attest.Placeholder
