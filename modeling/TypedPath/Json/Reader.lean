import TypedPath.Json.Basic
import TypedPath.Json.Phrase
import TypedPath.Value.Fields

/-! The documents that texts stand for. -/

namespace TypedPath

attribute [local instance (high)] instPowNat

def maxDocumentDepth : Nat := 127

def WrittenNumber.float? (n : WrittenNumber) : Option Float :=
  let x := n.numeral.toFloat
  if x.isFinite then some x else none

/-- Integers of 64 bits, signed or not, are kept; all other numbers become floats. -/
def WrittenNumber.toNumber? (n : WrittenNumber) : Option JsonNumber :=
  match Phrase.plainInt? n with
  | some i =>
    if -2 ^ (63 : Nat) ≤ i && i < 2 ^ (64 : Nat) then some (.int i) else n.float?.map .float
  | none => n.float?.map .float

mutual

/-- The document behind a phrase that is nested at most `depth` deep. Of members with one name the
last one counts. -/
def Json.ofPhrase? (depth : Nat) : Phrase → Option Json
  | .null => some .null
  | .bool value => some (.bool value)
  | .number n => n.toNumber?.map .number
  | .string text => text.map .string
  | .array items => if depth = 0 then none else (itemsOfPhrases? (depth - 1) items).map .array
  | .object members =>
    if depth = 0 then none
    else (membersOfPhrases? (depth - 1) members).map fun members => .object (putFields [] members)

def itemsOfPhrases? (depth : Nat) : List Phrase → Option (List Json)
  | [] => some []
  | item :: items => do
    let item ← Json.ofPhrase? depth item
    let items ← itemsOfPhrases? depth items
    some (item :: items)

def membersOfPhrases? (depth : Nat) :
    List (Option String × Phrase) → Option (List (String × Json))
  | [] => some []
  | (name, value) :: members => do
    let name ← name
    let value ← Json.ofPhrase? depth value
    let members ← membersOfPhrases? depth members
    some ((name, value) :: members)

end

mutual

theorem Json.namesDiffer_of_phrase {json : Json} : {depth : Nat} → (phrase : Phrase) →
    Json.ofPhrase? depth phrase = some json → json.NamesDiffer
  | _, .null, found => by
      cases found
      exact .null
  | _, .bool _, found => by
      cases found
      exact .bool _
  | _, .number n, found => by
      obtain ⟨value, _, rfl⟩ := Option.map_eq_some_iff.mp found
      exact .number value
  | _, .string text, found => by
      obtain ⟨value, _, rfl⟩ := Option.map_eq_some_iff.mp found
      exact .string value
  | depth, .array items, found => by
      rw [Json.ofPhrase?] at found
      split at found
      · cases found
      · obtain ⟨read, itemsRead, rfl⟩ := Option.map_eq_some_iff.mp found
        exact .array (namesDiffer_of_phrases items itemsRead)
  | depth, .object members, found => by
      rw [Json.ofPhrase?] at found
      split at found
      · cases found
      · obtain ⟨read, membersRead, rfl⟩ := Option.map_eq_some_iff.mp found
        refine .object (nodup_putFields read List.nodup_nil) fun member put => ?_
        rcases mem_putFields put with none | given
        · cases none
        · exact namesDiffer_of_members members membersRead member given

theorem namesDiffer_of_phrases {depth : Nat} : {items : List Json} → (phrases : List Phrase) →
    itemsOfPhrases? depth phrases = some items → ∀ item ∈ items, item.NamesDiffer
  | _, [], found => by
      cases found
      simp
  | _, phrase :: phrases, found => by
      simp only [itemsOfPhrases?, Option.bind_eq_bind, Option.bind_eq_some_iff,
        Option.some.injEq] at found
      obtain ⟨first, firstRead, rest, restRead, rfl⟩ := found
      exact List.forall_mem_cons.mpr
        ⟨Json.namesDiffer_of_phrase phrase firstRead, namesDiffer_of_phrases phrases restRead⟩

theorem namesDiffer_of_members {depth : Nat} : {members : List (String × Json)} →
    (phrases : List (Option String × Phrase)) →
      membersOfPhrases? depth phrases = some members → ∀ member ∈ members, member.2.NamesDiffer
  | _, [], found => by
      cases found
      simp
  | _, (name, phrase) :: phrases, found => by
      simp only [membersOfPhrases?, Option.bind_eq_bind, Option.bind_eq_some_iff,
        Option.some.injEq] at found
      obtain ⟨_, _, first, firstRead, rest, restRead, rfl⟩ := found
      exact List.forall_mem_cons.mpr
        ⟨Json.namesDiffer_of_phrase phrase firstRead, namesDiffer_of_members phrases restRead⟩

end

def Document.parse? (text : String) : Option Document := do
  let phrase ← Phrase.parse? text
  (Json.ofPhrase? maxDocumentDepth phrase).pmap Document.mk fun _ =>
    Json.namesDiffer_of_phrase phrase

end TypedPath
