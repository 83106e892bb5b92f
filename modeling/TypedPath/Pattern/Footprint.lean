import Std.Data.HashMap
import TypedPath.Pattern.Octets
import TypedPath.Pattern.Simplify

/-! How much room an automaton for a pattern takes up.

The automaton reads octets, forward or backward. Each state takes 32 octets. Beyond that, each edge
out of a state with many edges takes 8 octets, and each way out of a fork takes 4. Counted
repetitions have a copy of their body for each round. Both automata of a pattern have to fit. -/

namespace TypedPath.Pattern

attribute [local instance (high)] instPowNat

open TypedPath.Text

/-- The number of states so far, and the room that edges take beyond them. -/
structure Footprint where
  states : Nat
  edges : Nat

namespace Footprint

def empty : Footprint := ⟨0, 0⟩

def size (footprint : Footprint) : Nat := 32 * footprint.states + footprint.edges

def limit : Nat := 10 * 2 ^ (20 : Nat)

def add? (footprint : Footprint) (edges : Nat) : Option Footprint :=
  let grown : Footprint := ⟨footprint.states + 1, footprint.edges + edges⟩
  if grown.size ≤ limit then some grown else none

def addStates? (footprint : Footprint) (count : Nat) : Option Footprint :=
  let grown : Footprint := ⟨footprint.states + count, footprint.edges⟩
  if grown.size ≤ limit then some grown else none

def link (footprint : Footprint) (fork : Bool) : Footprint :=
  if fork then ⟨footprint.states, footprint.edges + 4⟩ else footprint

end Footprint

abbrev Edge := Nat × Nat × Nat

def mix (hash : UInt64) (n : Nat) : UInt64 := (hash ^^^ n.toUInt64) * 1099511628211

def hashStart : UInt64 := 14695981039346656037

/-- What has been built for a set, with a memory of states to use again. A memory has a fixed number
of slots, and what comes later into a slot drives out what was there. -/
structure SharedStates (key : Type) where
  footprint : Footprint
  slots : Std.HashMap Nat (key × Nat)

namespace SharedStates

variable {key : Type} [BEq key]

def start (footprint : Footprint) : SharedStates key := ⟨footprint, ∅⟩

def state? (shared : SharedStates key) (slot : Nat) (wanted : key) (edges : Nat) :
    Option (SharedStates key × Nat) :=
  let remembered := match shared.slots[slot]? with
    | some (other, state) => if other == wanted then some state else none
    | none => none
  match remembered with
  | some state => some (shared, state)
  | none => do
    let state := shared.footprint.states
    let footprint ← shared.footprint.add? edges
    some (⟨footprint, shared.slots.insert slot (wanted, state)⟩, state)

end SharedStates

def forwardSlot (edges : List Edge) : Nat :=
  (edges.foldl (fun hash (low, high, next) => mix (mix (mix hash low) high) next)
    hashStart).toNat % 10000

/-- The state from which all the sequences, of at most `length` octets, lead to the target. States
with the same edges are used again. -/
def forwardState? (target : Nat) : Nat → List (List OctetRange) → SharedStates (List Edge) →
    Option (SharedStates (List Edge) × Nat)
  | 0, _, _ => none
  | length + 1, sequences, shared => do
    let groups := sequences.splitBy fun a b => a.head? == b.head?
    let (shared, edges) ← groups.foldlM (fun (shared, edges) group => do
      match group with
      | ((low, high) :: []) :: _ => some (shared, (low, high, target) :: edges)
      | ((low, high) :: _) :: _ =>
        let (shared, next) ← forwardState? target length (group.map List.tail) shared
        some (shared, (low, high, next) :: edges)
      | _ => none) (shared, ([] : List Edge))
    let edges := edges.reverse
    shared.state? (forwardSlot edges) edges (8 * edges.length)

def backwardSlot (next low high : Nat) : Nat :=
  (mix (mix (mix hashStart next) low) high).toNat % 1000

def backwardStates? (target : Nat) (sequence : List OctetRange) (shared : SharedStates Edge) :
    Option (SharedStates Edge) := do
  let (shared, _) ← sequence.foldlM (fun (shared, next) (low, high) =>
    shared.state? (backwardSlot next low high) (low, high, next) 0) (shared, target)
  some { shared with footprint := shared.footprint.link true }

def addSet? (backward : Bool) (members : CodePointSet) (basic : Bool) (footprint : Footprint) :
    Option Footprint :=
  if basic || members.isBasic then do
    (← footprint.add? 0).add? (8 * members.ranges.length)
  else
    let sequences := members.ranges.flatMap fun (first, last) => octetSequences first last
    if backward then do
      let target := footprint.states + 1
      let footprint ← (← footprint.add? 0).add? 0
      let shared ← sequences.foldlM (fun shared sequence =>
        backwardStates? target sequence shared) (SharedStates.start footprint)
      some shared.footprint
    else do
      let target := footprint.states
      let footprint ← footprint.add? 0
      let (shared, _) ← forwardState? target 4 sequences (SharedStates.start footprint)
      some shared.footprint

/-- The states for words, of at most `length` octets, that share their starts. Words that end where
others go on part those before them from those behind. -/
def addWords? : Nat → List (List UInt8) → Footprint → Option Footprint
  | 0, _, _ => none
  | length + 1, words, footprint => do
    let (chunks, last) := words.foldl (fun (chunks, chunk) word =>
      if !word.isEmpty then (chunks, word :: chunk)
      else if chunk.isEmpty && chunks.all List.isEmpty && !chunks.isEmpty then (chunks, chunk)
      else (chunk.reverse :: chunks, [])) (([], []) : List (List (List UInt8)) × List (List UInt8))
    let (footprint, ways) ← (last.reverse :: chunks).foldlM (fun (footprint, ways) chunk => do
      let heads := (chunk.filterMap List.head?).eraseDups
      if heads.isEmpty then some (footprint, ways)
      else
        let footprint ← heads.foldlM (fun footprint head => do
          let tails := (chunk.filter (·.head? == some head)).map List.tail
          if tails.all List.isEmpty then some footprint
          else addWords? length tails footprint) footprint
        let footprint ← footprint.add? (if heads.length = 1 then 0 else 8 * heads.length)
        some (footprint, ways + 1)) (footprint, chunks.length)
    footprint.add? (4 * ways)

def literalOctets? : Pattern → Option (List UInt8)
  | literal text => some (text.flatMap String.utf8EncodeChar)
  | _ => none

abbrev Builder := Footprint → Option (Footprint × Bool)

def copiesAfter (build : Builder) : Nat → Footprint → Bool → Option (Footprint × Bool)
  | 0, footprint, fork => some (footprint, fork)
  | count + 1, footprint, fork =>
    match build (footprint.link fork) with
    | none => none
    | some (footprint, fork) => copiesAfter build count footprint fork

def copies (build : Builder) : Nat → Builder
  | 0, footprint => (footprint.add? 0).map (·, false)
  | count + 1, footprint =>
    match build footprint with
    | none => none
    | some (footprint, fork) => copiesAfter build count footprint fork

def optionalCopies (build : Builder) : Nat → Footprint → Bool → Option (Footprint × Bool)
  | 0, footprint, fork => some (footprint, fork)
  | count + 1, footprint, fork =>
    match (footprint.link fork).add? 8 with
    | none => none
    | some footprint =>
      match build footprint with
      | none => none
      | some (footprint, fork) => optionalCopies build count footprint fork

def addRepetition? (build : Builder) (advances : Bool) (least : Nat) (most : Option Nat) :
    Builder := fun footprint =>
  match least, most with
  | 0, some 1 => do
    let (footprint, fork) ← build (← footprint.add? 8)
    some (← (footprint.link fork).add? 0, false)
  | 0, none =>
    if advances then do
      let (footprint, fork) ← build (← footprint.add? 4)
      some (footprint.link fork, true)
    else do
      let (footprint, fork) ← build footprint
      let footprint ← (footprint.link fork).add? 8
      let footprint ← footprint.add? 8
      some (← footprint.add? 0, false)
  | 1, none => do
    let (footprint, fork) ← build footprint
    some (← (footprint.link fork).add? 4, true)
  | least + 2, none => do
    let (footprint, fork) ← copies build (least + 1) footprint
    let (footprint, fork) ← build (footprint.link fork)
    some (← (footprint.link fork).add? 4, true)
  | least, some most => do
    let (footprint, fork) ← copies build least footprint
    if least = most then some (footprint, fork)
    else
      let footprint ← footprint.add? 0
      let (footprint, fork) ← optionalCopies build (most - least) footprint fork
      some (footprint.link fork, false)

mutual

/-- The states of a pattern, for reading forward or backward. Captures leave marks in the forward
automaton only. -/
def build (backward : Bool) : Pattern → Builder
  | empty, footprint => (footprint.add? 0).map (·, false)
  | literal text, footprint =>
    (footprint.addStates? (text.flatMap String.utf8EncodeChar).length).map (·, false)
  | set members basic, footprint => (addSet? backward members basic footprint).map (·, false)
  | assertion _, footprint => (footprint.add? 0).map (·, false)
  | repetition body least most _, footprint =>
    addRepetition? (body.build backward) (body.leastLength.any (0 < ·)) least most footprint
  | capture _ body, footprint =>
    if backward then body.build backward footprint
    else do
      let (footprint, fork) ← body.build backward (← footprint.add? 0)
      some (← (footprint.link fork).add? 0, false)
  | sequence parts, footprint => buildSequence backward parts footprint
  | choice branches, footprint =>
    match branches.mapM literalOctets? with
    | some words => do
      let words := if backward then words.map List.reverse else words
      let length := words.foldl (fun length word => max length word.length) 0
      some (← addWords? (length + 1) words (← footprint.add? 0), false)
    | none => (buildBranches backward 0 branches footprint).map (·, false)
termination_by structural pattern => pattern

def buildSequence (backward : Bool) : List Pattern → Builder
  | [], footprint => (footprint.add? 0).map (·, false)
  | [part], footprint => part.build backward footprint
  | part :: parts, footprint =>
    if backward then do
      let (footprint, fork) ← buildSequence backward parts footprint
      part.build backward (footprint.link fork)
    else do
      let (footprint, fork) ← part.build backward footprint
      buildSequence backward parts (footprint.link fork)
termination_by structural parts => parts

def buildBranches (backward : Bool) (before : Nat) :
    List Pattern → Footprint → Option Footprint
  | [], footprint => some footprint
  | branch :: branches, footprint => do
    let (footprint, fork) ← branch.build backward footprint
    let footprint := (footprint.link fork).link true
    let footprint ← if before = 1 then footprint.addStates? 2 else some footprint
    buildBranches backward (before + 1) branches footprint
termination_by structural branches => branches

end

def footprint? (pattern : Pattern) (backward : Bool) : Option Footprint := do
  let anchored := pattern.requires (if backward then .endOfText else .startOfText) backward
  let footprint ← if anchored then Footprint.empty.add? 0
    else (← (← Footprint.empty.add? 8).add? 0).add? 8
  let (footprint, fork) ← (capture 0 pattern).build backward footprint
  (footprint.link fork).add? 0

def fits (pattern : Pattern) : Bool :=
  (pattern.footprint? false).isSome && (pattern.footprint? true).isSome

end TypedPath.Pattern
