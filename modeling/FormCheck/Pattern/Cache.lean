import FormCheck.Table
import FormCheck.Pattern.Basic

/-!
# A cache of compiled patterns

Compiling a pattern takes longer than matching it, and a rule meets the same few patterns again
and again. A cache keeps what became of the patterns met so far, also of those that do not
compile. Once it is full, the next new pattern empties it.

## Main definitions

* `Pattern.Cache` : patterns with what became of them.
* `Pattern.Cache.occurs` : the answer of `Pattern.occurs`, with the cache after it.
-/

namespace FormCheck.Pattern

/-- Pattern texts without their slashes, each with the pattern that it compiles to, if it does. -/
structure Cache where
  /-- What became of the pattern texts met so far. -/
  compiled : Table (Option Pattern)

namespace Cache

/-- The cache before the first pattern. -/
def empty : Cache := ⟨.empty⟩

/-- The greatest number of patterns in a cache. -/
def capacity : Nat := 256

/-- The cache after making room for a new pattern. -/
def makeRoom (cache : Cache) : Cache :=
  if capacity ≤ cache.compiled.size then empty else cache

/-- What becomes of a pattern text, with the cache after it. -/
def fetch (cache : Cache) (text : String) : Option Pattern × Cache :=
  match cache.compiled.get? text with
  | some pattern => (pattern, cache)
  | none =>
    let pattern := compile? text
    (pattern, ⟨cache.makeRoom.compiled.insert text pattern⟩)

/-- Whether a pattern text, between slashes or not, is a pattern that occurs in a value, with the
cache after it. -/
def occurs (cache : Cache) (text value : String) : Bool × Cache :=
  let (pattern, cache) := cache.fetch (stripSlashes text)
  (match pattern with
   | none => false
   | some p => p.occursIn value, cache)

end Cache

end FormCheck.Pattern
