/-!
# Host permutations

The order in which hosts are tried.  A shuffle may remember things between calls, and all it can do
to a list of hosts is to put it into another order.  `random` draws every order with the same
chance, provided that the words it is given are random.
-/

namespace ClusterSchema

/-- Puts hosts into the order in which they are tried; `τ` is what it remembers between calls. -/
structure HostShuffle (τ : Type) where
  shuffle : List String → τ → List String × τ
  /-- No host is lost and none is added. -/
  permutes : ∀ hosts state, (shuffle hosts state).1.Perm hosts

namespace HostShuffle

/-- Leaves hosts in the order of the config. -/
def keep : HostShuffle Unit where
  shuffle hosts state := (hosts, state)
  permutes _ _ := .refl _

/-- Takes hosts from the last to the first. -/
def reversed : HostShuffle Unit where
  shuffle hosts state := (hosts.reverse, state)
  permutes hosts _ := hosts.reverse_perm

/-- The largest low half that a product with `range` may have: the last number of the greatest
multiple of `range` by a power of two that fits into 32 bits.  Products above it would favour some
numbers. -/
def acceptanceZone (range : Nat) : Nat := range <<< (31 - range.log2) - 1

/-- A number below `range`, each with the same chance, and the words that are left.  The product of
a word with `range` has the number in its high half; words whose low half lies beyond the zone are
passed over.  Where the words have run out the number is zero. -/
def draw (range : Nat) : List UInt32 → Nat × List UInt32
  | [] => (0, [])
  | word :: rest =>
    let product := word.toNat * range
    if product % 4294967296 ≤ acceptanceZone range then (product / 4294967296, rest)
    else draw range rest

/-- Exchanges each host from position `last` down to the second with one at or before it. -/
def mix (hosts : Array String) : Nat → List UInt32 → Array String × List UInt32
  | 0, words => (hosts, words)
  | last + 1, words =>
    let (chosen, rest) := draw (last + 2) words
    mix (hosts.swapIfInBounds (last + 1) chosen) last rest

theorem swapIfInBounds_perm (hosts : Array String) (i j : Nat) :
    (hosts.swapIfInBounds i j).Perm hosts := by
  unfold Array.swapIfInBounds
  split
  · split
    · exact Array.swap_perm ..
    · exact .refl _
  · exact .refl _

theorem mix_perm (hosts : Array String) (last : Nat) (words : List UInt32) :
    (mix hosts last words).1.Perm hosts := by
  induction last generalizing hosts words with
  | zero => exact .refl _
  | succ last ih => exact (ih _ _).trans (swapIfInBounds_perm ..)

/-- Puts hosts into a random order, drawn from random words. -/
def random : HostShuffle (List UInt32) where
  shuffle hosts words :=
    let (mixed, rest) := mix hosts.toArray (hosts.length - 1) words
    (mixed.toList, rest)
  permutes hosts words := by
    simpa using (mix_perm hosts.toArray (hosts.length - 1) words).toList

/-- The bits of a counter spread over a whole word. -/
def scrambled (counter : UInt64) : UInt64 :=
  let first := (counter ^^^ (counter >>> 30)) * 0xBF58476D1CE4E5B9
  let second := (first ^^^ (first >>> 27)) * 0x94D049BB133111EB
  second ^^^ (second >>> 31)

/-- `count` words that look random and depend on nothing but the seed. -/
def wordsOfSeed (seed : UInt64) : Nat → List UInt32
  | 0 => []
  | count + 1 =>
    let next := seed + 0x9E3779B97F4A7C15
    (scrambled next >>> 32).toUInt32 :: wordsOfSeed next count

end HostShuffle

end ClusterSchema
