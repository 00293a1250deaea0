import Highlighting.Highlighter

/-!
A cache of the highlights of a document. A refresh computes only the blocks that were invalidated
or that now begin in another state, and says which blocks it had to compute.
-/
namespace Highlighting

structure CachedBlock where
  incoming : BlockState
  highlight : Highlight
  deriving DecidableEq, Repr

/-- One slot for each block, empty where the highlight is not known. -/
structure DocumentCache where
  language : Option Language
  slots : List (Option CachedBlock)
  deriving DecidableEq, Repr

namespace DocumentCache

def empty : DocumentCache := ⟨none, []⟩

def size (cache : DocumentCache) : Nat := cache.slots.length

def highlight? (cache : DocumentCache) (block : Nat) : Option Highlight :=
  (cache.slots[block]?.join).map (·.highlight)

def spans? (cache : DocumentCache) (block : Nat) : Option (List Span) :=
  (cache.highlight? block).map (·.spans)

def state? (cache : DocumentCache) (block : Nat) : Option BlockState :=
  (cache.highlight? block).map (·.state)

def invalidate (cache : DocumentCache) (block : Nat) : DocumentCache :=
  { cache with slots := cache.slots.set block none }

def invalidateFrom (cache : DocumentCache) (block : Nat) : DocumentCache :=
  { cache with slots := cache.slots.mapIdx fun i slot => if block ≤ i then none else slot }

/-- Forgets everything, the number of blocks included. -/
def invalidateAll (cache : DocumentCache) : DocumentCache := { cache with slots := [] }

def reusable? (slot : Option CachedBlock) (incoming : BlockState) : Option CachedBlock :=
  slot.filter (·.incoming = incoming)

/-- Goes through the blocks and their slots, keeping what can be kept. Each slot comes with whether
it was computed; blocks without a slot are computed, slots without a block are dropped. -/
def refill (grammar : Grammar) :
    (incoming : BlockState) → List (Option CachedBlock) → List Text → List (CachedBlock × Bool)
  | _, _, [] => []
  | incoming, slots, block :: rest =>
    match reusable? slots.head?.join incoming with
    | some known => (known, false) :: refill grammar known.highlight.state slots.tail rest
    | none =>
      let h := grammar.highlight block incoming
      (⟨incoming, h⟩, true) :: refill grammar h.state slots.tail rest

/-- The smallest range that holds the positions of all `true`s, the empty one at 0 if there are
none. -/
def hull (flags : List Bool) : Range :=
  match flags.findIdx? id with
  | none => ⟨0, 0⟩
  | some first => ⟨first, flags.length - (flags.reverse.findIdx id)⟩

def slotsFor (cache : DocumentCache) (language : Language) : List (Option CachedBlock) :=
  if cache.language = some language then cache.slots else []

def refresh (cache : DocumentCache) (highlighter : Highlighter) (blocks : List Text) :
    DocumentCache × Range :=
  let filled := refill highlighter.grammar .normal (cache.slotsFor highlighter.language) blocks
  (⟨some highlighter.language, filled.map fun f => some f.1⟩, hull (filled.map (·.2)))

end DocumentCache

end Highlighting
