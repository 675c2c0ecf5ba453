import Mathlib.Data.List.Forall2
import Attest.Chain.Basic
import Attest.Proofs.Chain.KeyPlace
import Attest.Proofs.Parallel

/-!
# Chains opened with other keys

A chain is opened with the keys that are kept for its providers. Where two stores keep keys under
the same names, opening a chain with either fails in the same way, or gives two chains that are the
same but for the keys in the addresses of their providers (`Chain.connect_related`).
-/
namespace Attest

open Attempt

namespace Secrets

/-- The key that is kept under a name. One without characters does not count. -/
def key? (secrets : Secrets) (name : String) : Option String :=
  (((secrets.keyring.get? name).filter (! ·.isEmpty)).or
    (secrets.environment.get? name)).filter (! ·.isEmpty)

/-- Whether two stores keep keys under the same names, whatever the keys. -/
def SameNames (one other : Secrets) : Prop :=
  ∀ name, (one.key? name).isSome = (other.key? name).isSome

/-- What is found under a name is a key in both stores or in neither. -/
theorem find_related (settings : Settings) (name : String) :
    Related SameNames Eq (fun found found' : Option String =>
        (found.filter (! ·.isEmpty)).isSome = (found'.filter (! ·.isEmpty)).isSome)
      (find settings name) (find settings name) :=
  fun _ _ same => ⟨.ok (same name), same⟩

end Secrets

namespace Provider

/-- Whether a value names a key. -/
def NamesKey (value : Json) : Prop :=
  ∃ name, value.memberD "apiKeyName" .null = .ok name ∧ name.holds = true

/-- Whether a value gives an address in which the key that it names is still to be filled. -/
def Gives (value : Json) (template : List Char) : Prop :=
  NamesKey value ∧ ∃ url, value.member "url" = .ok url ∧ url.chars = .ok template

/-- Two addresses that a record and its address come to: one, or a template with one key in its
places and with another. -/
inductive SameTemplate (record url : Json) : String → String → Prop
  | refl (address : String) : SameTemplate record url address address
  | filled {template : List Char} (names : NamesKey record) (read : url.chars = .ok template)
    (key key' : String) : SameTemplate record url (filled key template) (filled key' template)

/-- Two providers that are the same but for the keys in their addresses. -/
structure Twins (values : List Json) (one other : Provider) : Prop where
  /-- Where the addresses are not the same, one of the values gives the template of both. -/
  url : one.url = other.url ∨ ∃ value ∈ values, ∃ template, Gives value template ∧
    ∃ key key', one.url = filled key template ∧ other.url = filled key' template
  /-- They want the same headers. -/
  headers : one.headers = other.headers
  /-- They give traces by the same method. -/
  traces : one.traces = other.traces

/-- Twins of some values are twins of more. -/
theorem Twins.mono {values more : List Json} {one other : Provider} (twins : Twins values one other)
    (subset : values ⊆ more) : Twins more one other where
  url := twins.url.imp_right fun ⟨value, member, given⟩ => ⟨value, subset member, given⟩
  headers := twins.headers
  traces := twins.traces

/-- Twins are known by the same words if no template has a place for a key in front of its query. -/
theorem Twins.describe_eq {values : List Json} {one other : Provider}
    (twins : Twins values one other)
    (guarded : ∀ value ∈ values, ∀ template, Gives value template →
      ¬ keyPlace <:+: front template) : one.describe = other.describe := by
  rcases twins.url with same | ⟨value, member, template, given, key, key', one_url, other_url⟩
  · rw [describe_eq_iff, same]
  · have words := wordsUnder_eq (guarded value member template given) key key'
    rw [wordsUnder, wordsUnder, describe_eq_iff] at words
    rw [describe_eq_iff, one_url, other_url]
    exact words

/-- The keys of two stores are filled in the places of one template. -/
theorem urlOf_related (settings : Settings) (record url : Json) :
    Related Secrets.SameNames Eq (SameTemplate record url) (urlOf settings record url)
      (urlOf settings record url) := by
  refine .reading_bind (fun _ => rfl) fun name named => ?_
  split
  · rename_i holds
    refine (Secrets.find_related settings name.plain).bind fun found found' counts => ?_
    generalize found.filter (! ·.isEmpty) = kept at counts ⊢
    generalize found'.filter (! ·.isEmpty) = kept' at counts ⊢
    cases kept with
    | none =>
      obtain rfl := Option.not_isSome_iff_eq_none.mp (by rw [← counts]; exact Bool.false_ne_true)
      exact .throw rfl
    | some key =>
      obtain ⟨key', rfl⟩ := Option.isSome_iff_exists.mp counts.symm
      exact .reading_bind (fun _ => rfl) fun template read =>
        .pure (.filled ⟨name, named, holds⟩ read key key')
  · exact .reading_bind (fun _ => rfl) fun address _ => .pure (.refl _)

/-- A value describes twins. -/
theorem ofJson_related (settings : Settings) (value : Json) :
    Related Secrets.SameNames Eq (Twins [value]) (ofJson settings value)
      (ofJson settings value) := by
  unfold ofJson
  split
  · exact .pure ⟨.inl rfl, rfl, rfl⟩
  · refine .reading_bind (fun _ => rfl) fun url found => ?_
    refine (urlOf_related settings value url).bind fun one other addresses => ?_
    refine .reading_bind (fun _ => rfl) fun headers _ => ?_
    refine .reading_bind (fun _ => rfl) fun traces _ => .pure ⟨?_, rfl, rfl⟩
    cases addresses with
    | refl => exact .inl rfl
    | filled names read key key' =>
      have given : Gives value _ := ⟨names, url, found, read⟩
      exact .inr ⟨value, List.mem_singleton_self value, _, given, key, key', rfl, rfl⟩

/-- Values describe twins, each one pair. -/
theorem ofJsons_related (settings : Settings) (values : List Json) :
    Related Secrets.SameNames Eq (List.Forall₂ (Twins values)) (ofJsons settings values)
      (ofJsons settings values) := by
  induction values with
  | nil => exact .pure .nil
  | cons value rest inductive_hypothesis =>
    refine (ofJson_related settings value).bind fun first first' twins => ?_
    refine inductive_hypothesis.bind fun others others' twins_behind => .pure ?_
    have behind : List.Forall₂ (Twins (value :: rest)) others others' :=
      twins_behind.imp fun _ _ twins => twins.mono (List.subset_cons_self value rest)
    have alone : [value] ⊆ value :: rest :=
      List.cons_subset_cons value (List.nil_subset rest)
    exact .cons (twins.mono alone) behind

end Provider

namespace Chain

/-- Two chains that are the same but for the keys in the addresses of their providers. -/
structure OpenedAlike (rpcs : Json) (chain twin : Chain) : Prop where
  /-- They have the same number. -/
  id : twin.id = chain.id
  /-- They have the same settings. -/
  settings : twin.settings = chain.settings
  /-- They get the same replies. -/
  network : twin.network = chain.network
  /-- The values that describe the providers of one describe those of the other. -/
  providers : ∃ values, rpcs.listed = .ok values ∧
    List.Forall₂ (Provider.Twins values) chain.providers twin.providers

/-- With stores that keep keys under the same names, chains that are the same but for the keys are
opened, or none is. -/
theorem connect_related (id : Int) (name : String) (rpcs : Json) (settings : Settings)
    (network : Network) :
    Related Secrets.SameNames Eq (OpenedAlike rpcs) (connect id name rpcs settings network)
      (connect id name rpcs settings network) := by
  unfold connect
  dsimp only
  by_cases absent : (!rpcs.holds) = true
  · rw [if_pos absent]
    exact fun _ _ same => ⟨.error rfl, same⟩
  · rw [if_neg absent]
    refine .reading_bind (fun _ => rfl) fun values listed => ?_
    refine (Provider.ofJsons_related settings values).bind fun providers providers' twins => ?_
    exact .pure ⟨rfl, rfl, rfl, values, listed, twins⟩

end Chain

end Attest
