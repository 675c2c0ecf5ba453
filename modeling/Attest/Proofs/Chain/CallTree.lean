import Attest.Chain.Trace
import Attest.Proofs.Result

/-!
# Trees of calls

A call is told by a frame, which lists the frames of the calls that it made. The search for creations
goes through such a tree and takes the frame of each creation that lies beneath no other
(`Trace.creationsAmong_outermost`): it does not look beneath the frame of a creation, though contracts
are also created there.
-/
namespace Attest

/-- A call, told by its frame, and the calls that it made in order. -/
inductive CallTree where
  | node (frame : Json) (calls : List CallTree)

namespace CallTree

/-- The frame of the call at the root. -/
def frame : CallTree → Json
  | node frame _ => frame

/-- Whether the members of a frame list these frames. The frame of a call that made none may list
nothing at all. -/
def HasCalls (members : List (String × Json)) (frames : List Json) : Prop :=
  let calls := (Table.get? members "calls").getD .null
  calls = .list frames ∨ calls.holds = false ∧ frames = []

/-- Whether each frame of a tree is a record that lists the frames beneath it. -/
inductive Shaped : CallTree → Prop
  | node {members : List (String × Json)} {calls : List CallTree}
    (lists : HasCalls members (calls.map frame)) (each : ∀ call ∈ calls, Shaped call) :
    Shaped (.node (.record members) calls)

/-- Whether a frame tells of a creation. -/
def isCreation : Json → Bool
  | .record members =>
    let kind := (Table.get? members "type").getD .null
    kind.isText "CREATE" || kind.isText "CREATE2"
  | _ => false

/-- A frame, and the frames in which it lies from the outermost on. -/
structure Place where
  /-- The frames in which it lies. -/
  above : List Json
  /-- The frame. -/
  frame : Json

/-- Whether a frame lies beneath that of a creation. -/
def Place.sheltered (place : Place) : Bool := place.above.any isCreation

mutual

/-- The frames of a tree that lies in others, each before those that it lists. -/
def places (above : List Json) : CallTree → List Place
  | node frame calls => ⟨above, frame⟩ :: placesAmong (above ++ [frame]) calls

/-- The frames of trees that lie in others, in the order of the trees. -/
def placesAmong (above : List Json) : List CallTree → List Place
  | [] => []
  | call :: rest => places above call ++ placesAmong above rest

end

/-- Whether no creation among these lies beneath another. -/
def Unsheltered (places : List Place) : Prop :=
  ∀ place ∈ places, isCreation place.frame = true → place.sheltered = false

/-- The frames among these that tell of creations. -/
def createdIn (places : List Place) : List Json :=
  (places.filter (isCreation ·.frame)).map Place.frame

/-- The frames among these that tell of creations and lie beneath no other creation. -/
def outermostIn (places : List Place) : List Json :=
  (places.filter fun place => isCreation place.frame && !place.sheltered).map Place.frame

/-- The frames of all creations in trees, in order. -/
def created (calls : List CallTree) : List Json := createdIn (placesAmong [] calls)

/-- The frames of the creations in trees that lie beneath no other creation, in order. -/
def outermost (calls : List CallTree) : List Json := outermostIn (placesAmong [] calls)

/-- A first frame is taken if it tells of a creation. -/
theorem createdIn_cons (place : Place) (rest : List Place) :
    createdIn (place :: rest) =
      if isCreation place.frame then place.frame :: createdIn rest else createdIn rest := by
  rw [createdIn, List.filter_cons]
  split <;> rfl

/-- A first frame is taken if it tells of a creation beneath no other. -/
theorem outermostIn_cons (place : Place) (rest : List Place) :
    outermostIn (place :: rest) =
      if isCreation place.frame && !place.sheltered then place.frame :: outermostIn rest
      else outermostIn rest := by
  rw [outermostIn, List.filter_cons]
  split <;> rfl

/-- The frames are taken from one list after the other. -/
theorem outermostIn_append (first second : List Place) :
    outermostIn (first ++ second) = outermostIn first ++ outermostIn second := by
  rw [outermostIn, List.filter_append, List.map_append]
  rfl

mutual

/-- Every frame of a tree lies in all frames in which the tree lies. -/
theorem prefix_of_mem_places {above : List Json} : ∀ {tree : CallTree} {place : Place},
    place ∈ places above tree → above <+: place.above
  | .node frame calls, place, found => by
    rw [places] at found
    rcases List.mem_cons.mp found with root | beneath
    · obtain rfl := root
      exact List.prefix_rfl
    · have inner : above ++ [frame] <+: place.above := prefix_of_mem_placesAmong beneath
      exact (List.prefix_append above [frame]).trans inner

/-- Every frame of trees lies in all frames in which the trees lie. -/
theorem prefix_of_mem_placesAmong {above : List Json} : ∀ {calls : List CallTree} {place : Place},
    place ∈ placesAmong above calls → above <+: place.above
  | [], place, found => absurd found List.not_mem_nil
  | call :: rest, place, found => by
    rw [placesAmong] at found
    rcases List.mem_append.mp found with early | later
    · exact prefix_of_mem_places early
    · exact prefix_of_mem_placesAmong later

end

/-- Nothing in trees beneath a creation lies beneath no creation. -/
theorem outermostIn_of_sheltered {above : List Json} (sheltered : above.any isCreation = true)
    (calls : List CallTree) : outermostIn (placesAmong above calls) = [] := by
  rw [outermostIn, List.map_eq_nil_iff, List.filter_eq_nil_iff]
  intro place found
  obtain ⟨deeper, whole⟩ := prefix_of_mem_placesAmong found
  have covered : place.sheltered = true := by
    rw [Place.sheltered, ← whole, List.any_append, sheltered, Bool.true_or]
  rw [covered]
  simp

/-- A creation beneath no other is a creation. -/
theorem mem_createdIn_of_mem_outermostIn {places : List Place} {frame : Json}
    (found : frame ∈ outermostIn places) : frame ∈ createdIn places := by
  obtain ⟨place, kept, same⟩ := List.mem_map.mp found
  obtain ⟨present, outer⟩ := List.mem_filter.mp kept
  have creates : isCreation place.frame = true := (Bool.and_eq_true_iff.mp outer).1
  exact List.mem_map.mpr ⟨place, List.mem_filter.mpr ⟨present, creates⟩, same⟩

/-- All creations lie beneath no other exactly if each of them does. -/
theorem outermostIn_eq_createdIn_iff {places : List Place} :
    outermostIn places = createdIn places ↔ Unsheltered places := by
  have twice : outermostIn places =
      ((places.filter (isCreation ·.frame)).filter (!·.sheltered)).map Place.frame := by
    rw [List.filter_filter, outermostIn]
    simp only [Bool.and_comm]
  rw [twice, createdIn]
  constructor
  · intro same place found creation
    have lengths := congrArg List.length same
    rw [List.length_map, List.length_map, List.length_filter_eq_length_iff] at lengths
    have open_air := lengths place (List.mem_filter.mpr ⟨found, creation⟩)
    simpa using open_air
  · intro each
    congr 1
    rw [List.filter_eq_self]
    intro place found
    obtain ⟨found, creation⟩ := List.mem_filter.mp found
    rw [each place found creation]
    rfl

end CallTree

open CallTree

namespace Trace

/-- The search ends at the frame of a creation and goes on beneath another. -/
theorem creationsOf_record (members : List (String × Json)) :
    creationsOf (.record members) =
      if isCreation (.record members) then .ok [.record members] else creationsBeneath members := by
  rw [creationsOf, isCreation]
  split
  · rename_i kind
    rw [kind]
    rfl
  · rename_i kind
    rw [kind]
    rfl
  · rename_i no_create no_create2
    rw [if_neg]
    cases kind : Table.get? members "type" with
    | none => simp [Json.isText]
    | some value =>
      cases value with
      | text name =>
        have other : name ≠ "CREATE" := fun same => no_create (same ▸ kind)
        have other2 : name ≠ "CREATE2" := fun same => no_create2 (same ▸ kind)
        simp [Json.isText, other, other2]
      | _ => simp [Json.isText]

/-- The search beneath a frame goes through the calls that it lists. -/
theorem creationsBeneath_of_lists {members : List (String × Json)} {frames : List Json}
    (lists : HasCalls members frames) : creationsBeneath members = creationsAmong frames := by
  induction members with
  | nil =>
    rw [HasCalls] at lists
    rcases lists with listed | ⟨-, none⟩
    · cases listed
    · rw [none]
      rfl
  | cons row rest inductive_hypothesis =>
    obtain ⟨name, value⟩ := row
    rw [HasCalls, Table.get?] at lists
    rw [creationsBeneath]
    by_cases calls : name = "calls"
    · rw [if_pos calls] at lists
      rw [if_pos calls]
      rcases lists with listed | ⟨nothing, none⟩
      · obtain rfl : value = .list frames := listed
        cases frames with
        | nil => rfl
        | cons first others => rfl
      · have nothing : value.holds = false := nothing
        rw [nothing, none]
        rfl
    · rw [if_neg calls] at lists ⊢
      exact inductive_hypothesis lists

/-- The search through frames finds what it finds in each. -/
theorem creationsAmong_of_each {above : List Json} {calls : List CallTree}
    (each : ∀ call ∈ calls, creationsOf call.frame = .ok (outermostIn (places above call))) :
    creationsAmong (calls.map CallTree.frame) = .ok (outermostIn (placesAmong above calls)) := by
  induction calls with
  | nil => rfl
  | cons call rest inductive_hypothesis =>
    have first := each call List.mem_cons_self
    have others := inductive_hypothesis fun other found => each other (List.mem_cons_of_mem _ found)
    rw [List.map_cons, creationsAmong, first, others, placesAmong, outermostIn_append]
    rfl

/-- The search from a frame that lies beneath no creation finds the creations beneath no other. -/
theorem creationsOf_outermost {tree : CallTree} (shaped : tree.Shaped) {above : List Json}
    (bare : above.any isCreation = false) :
    creationsOf tree.frame = .ok (outermostIn (places above tree)) := by
  -- The induction is on the tree, the search itself goes through the members of records.
  induction shaped generalizing above with
  | @node members calls lists _ inductive_hypothesis =>
    change creationsOf (.record members) = _
    rw [creationsOf_record, places, outermostIn_cons]
    let inside := above ++ [Json.record members]
    cases creation : isCreation (.record members) with
    | true =>
      -- The search stops here, and all beneath is sheltered by this frame.
      have covered : inside.any isCreation = true := by
        rw [List.any_append, List.any_cons, creation, Bool.true_or, Bool.or_true]
      have open_air : (Place.mk above (.record members)).sheltered = false := bare
      rw [outermostIn_of_sheltered covered calls, open_air]
      rfl
    | false =>
      have bare_inside : inside.any isCreation = false := by
        rw [List.any_append, bare, List.any_cons, creation]
        rfl
      rw [if_neg Bool.false_ne_true, Bool.false_and, if_neg Bool.false_ne_true,
        creationsBeneath_of_lists lists]
      exact creationsAmong_of_each fun call found => inductive_hypothesis call found bare_inside

/-- The search through trees finds the creations beneath no other. -/
theorem creationsAmong_outermost {calls : List CallTree}
    (shaped : ∀ call ∈ calls, call.Shaped) :
    creationsAmong (calls.map CallTree.frame) = .ok (outermost calls) :=
  creationsAmong_of_each fun call found => creationsOf_outermost (shaped call found) rfl

end Trace

end Attest
