import Attest.Json.Basic
import Attest.Text.Numeral

/-!
# Auxdatas in an assembly listing

A compiler lists the assembly of a contract as a tree: the auxdata of an assembly, a record of its
data, and under numbers the assemblies that it embeds. The auxdatas are collected in one order, by
the numbers and not by their places in the listing, so that the listings of two compilations of one
program pair up.
-/
namespace Attest.Assembly

/-- Whether a name is a number of an embedded assembly. -/
def isNumber (name : String) : Bool := !name.isEmpty && name.toList.all Text.isDigitLike

/-- The auxdatas of the numbered parts, by ascending number. -/
def inOrder (numbered : List (Nat × List Json)) : List Json :=
  (numbered.mergeSort fun a b => a.1 ≤ b.1).flatMap Prod.snd

mutual

/-- The auxdatas of a listing: its own and those of its data in the order of its members, then those
of its numbered parts. -/
def auxdatas : Json → Except Fault (List Json)
  | .record members => do
    let (direct, numbered) ← memberAuxdatas members
    return direct ++ inOrder numbered
  | _ => .ok []

/-- The auxdatas of members: those to take in place, and those of each numbered part. -/
def memberAuxdatas :
    List (String × Json) → Except Fault (List Json × List (Nat × List Json))
  | [] => .ok ([], [])
  | (name, value) :: rest => do
    let (direct, numbered) ← memberAuxdatas rest
    if name = ".auxdata" then return (value :: direct, numbered)
    else if name = ".data" then return ((← auxdatas value) ++ direct, numbered)
    else if isNumber name then
      match Numeral.readNat? 10 name.toList with
      | some number => return (direct, (number, ← auxdatas value) :: numbered)
      | none => .error .badNumeral
    else return (direct, numbered)

end

end Attest.Assembly
