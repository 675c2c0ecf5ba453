import Mathlib.Data.List.Forall2
import Mathlib.Data.List.Perm.Basic
import Attest.Extraction.Immutable
import Attest.Extraction.Library

/-!
# References in another order

References are read in the order in which their document has them. A document with its members and
items in another order lists the same slots, in another order only
(`LibrarySlot.listing_reordered`, `ImmutableSlot.listing_reordered`).
-/
namespace Attest

namespace Json

/-- Whether a value is another one with its items in another order. -/
inductive ItemsReordered : Json → Json → Prop
  | same (value : Json) : ItemsReordered value value
  | items {items others : List Json} (order : items.Perm others) :
    ItemsReordered (.list items) (.list others)

/-- Whether a value is another one with its members in another order, and each of them reordered
within. -/
inductive MembersReordered (within : Json → Json → Prop) : Json → Json → Prop
  | same (value : Json) : MembersReordered within value value
  | members {members middle others : List (String × Json)} (order : members.Perm middle)
    (each : List.Forall₂ (fun row other => row.1 = other.1 ∧ within row.2 other.2) middle others) :
    MembersReordered within (.record members) (.record others)

/-- Whether link references are others with the files, the libraries of each file and the references
of each library in another order. -/
def LinksReordered : Json → Json → Prop := MembersReordered (MembersReordered ItemsReordered)

/-- Whether immutable references are others with the ids and the references of each id in another
order. -/
def ImmutablesReordered : Json → Json → Prop := MembersReordered ItemsReordered

end Json

namespace Listing

variable {α β : Type}

/-- Whether a listing that is complete has another order of the same entries, and is complete too. -/
def Reordered (listing other : Listing α) : Prop :=
  listing.fault = none → other.fault = none ∧ listing.entries.Perm other.entries

/-- A listing has its own entries. -/
theorem Reordered.refl (listing : Listing α) : listing.Reordered listing :=
  fun complete => ⟨complete, .refl _⟩

/-- An order of the entries of an order has the same entries. -/
theorem Reordered.trans {first second third : Listing α} (begun : first.Reordered second)
    (ended : second.Reordered third) : first.Reordered third := by
  intro complete
  obtain ⟨complete_second, order⟩ := begun complete
  obtain ⟨complete_third, order_third⟩ := ended complete_second
  exact ⟨complete_third, order.trans order_third⟩

/-- Two listings in order are complete if both are. -/
theorem append_fault_eq_none_iff {first second : Listing α} :
    (first.append second).fault = none ↔ first.fault = none ∧ second.fault = none := by
  rw [append]
  cases stopped : first.fault with
  | none => simp
  | some fault => simp

/-- Two listings in order have the entries of both if the first is complete. -/
theorem append_entries {first second : Listing α} (complete : first.fault = none) :
    (first.append second).entries = first.entries ++ second.entries := by
  rw [append, complete]

/-- Listings in order have the same entries if each has. -/
theorem Reordered.append {first second other_first other_second : Listing α}
    (front : first.Reordered other_first) (back : second.Reordered other_second) :
    (first.append second).Reordered (other_first.append other_second) := by
  intro complete
  obtain ⟨complete_first, complete_second⟩ := append_fault_eq_none_iff.mp complete
  obtain ⟨complete_front, order⟩ := front complete_first
  obtain ⟨complete_back, order_back⟩ := back complete_second
  refine ⟨append_fault_eq_none_iff.mpr ⟨complete_front, complete_back⟩, ?_⟩
  rw [append_entries complete_first, append_entries complete_front]
  exact order.append order_back

/-- Items in another order are collected in another order. -/
theorem collect_of_perm (read : β → Listing α) {items others : List β} (order : items.Perm others) :
    (collect read items).Reordered (collect read others) := by
  induction order with
  | nil => exact .refl _
  | cons item _ inductive_hypothesis => exact (Reordered.refl _).append inductive_hypothesis
  | swap first second rest =>
    intro complete
    obtain ⟨complete_second, complete⟩ := append_fault_eq_none_iff.mp complete
    obtain ⟨complete_first, complete_rest⟩ := append_fault_eq_none_iff.mp complete
    refine ⟨append_fault_eq_none_iff.mpr
      ⟨complete_first, append_fault_eq_none_iff.mpr ⟨complete_second, complete_rest⟩⟩, ?_⟩
    simp only [collect, append_entries complete_first, append_entries complete_second]
    rw [← List.append_assoc, ← List.append_assoc]
    exact List.perm_append_comm.append_right _
  | trans _ _ begun ended => exact begun.trans ended

/-- Items of which each is read in another order are collected in another order. -/
theorem collect_of_each {read : β → Listing α} {items others : List β}
    (each : List.Forall₂ (fun item other => (read item).Reordered (read other)) items others) :
    (collect read items).Reordered (collect read others) := by
  induction each with
  | nil => exact .refl _
  | cons first _ inductive_hypothesis => exact first.append inductive_hypothesis

/-- Members in another order, each reordered within, are collected in another order. -/
theorem collect_of_members {within : Json → Json → Prop} {read : String × Json → Listing α}
    (kept : ∀ name value other, within value other →
      (read (name, value)).Reordered (read (name, other)))
    {members middle others : List (String × Json)} (order : members.Perm middle)
    (each : List.Forall₂ (fun row other => row.1 = other.1 ∧ within row.2 other.2) middle others) :
    (collect read members).Reordered (collect read others) := by
  refine (collect_of_perm read order).trans (collect_of_each (each.imp ?_))
  rintro ⟨name, value⟩ ⟨_, other⟩ ⟨rfl, inner⟩
  exact kept name value other inner

end Listing

namespace LibrarySlot

/-- References of a library in another order give its slots in another order. -/
theorem ofReferences_reordered (name : String) {references others : Json}
    (order : references.ItemsReordered others) :
    (ofReferences name references).Reordered (ofReferences name others) := by
  cases order with
  | same => exact .refl _
  | items order => exact Listing.collect_of_perm _ order

/-- Libraries of a file in another order give its slots in another order. -/
theorem ofFile_reordered (file : String) {libraries others : Json}
    (order : libraries.MembersReordered Json.ItemsReordered others) :
    (ofFile file libraries).Reordered (ofFile file others) := by
  cases order with
  | same => exact .refl _
  | members order each =>
    exact Listing.collect_of_members (fun library _ _ inner =>
      ofReferences_reordered (file ++ ":" ++ library) inner) order each

/-- The slots of a record are those of its files. -/
theorem listing_record (files : List (String × Json)) :
    listing (.record files) = .collect (fun (file, libraries) => ofFile file libraries) files := by
  cases files <;> rfl

/-- Link references in another order list the same slots in another order. -/
theorem listing_reordered {links others : Json} (order : links.LinksReordered others) :
    (listing links).Reordered (listing others) := by
  cases order with
  | same => exact .refl _
  | members order each =>
    rw [listing_record, listing_record]
    exact Listing.collect_of_members (fun file _ _ inner => ofFile_reordered file inner) order each

end LibrarySlot

namespace ImmutableSlot

/-- References of an immutable in another order give its slots in another order. -/
theorem ofReferences_reordered (id : String) {references others : Json}
    (order : references.ItemsReordered others) :
    (ofReferences id references).Reordered (ofReferences id others) := by
  cases order with
  | same => exact .refl _
  | items order => exact Listing.collect_of_perm _ order

/-- The slots of a record are those of its ids. -/
theorem listing_record (ids : List (String × Json)) :
    listing (.record ids) = .collect (fun (id, slots) => ofReferences id slots) ids := by
  cases ids <;> rfl

/-- Immutable references in another order list the same slots in another order. -/
theorem listing_reordered {references others : Json}
    (order : references.ImmutablesReordered others) :
    (listing references).Reordered (listing others) := by
  cases order with
  | same => exact .refl _
  | members order each =>
    rw [listing_record, listing_record]
    exact Listing.collect_of_members (fun id _ _ inner => ofReferences_reordered id inner)
      order each

end ImmutableSlot

end Attest
