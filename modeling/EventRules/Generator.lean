/-
Random numbers. A generator is a stream of 32-bit words with a place in it; every draw takes the
next word. A word gives a number from zero up to one in steps of `2 ^ -24`, or in steps of `2 ^ -23`
for a choice among weights.
-/
import EventRules.Binary.Arithmetic
namespace EventRules

structure Generator where
  word : Nat → UInt32
  drawn : Nat := 0

namespace Generator

/-- The next word, and the generator behind it. -/
def next (g : Generator) : UInt32 × Generator := (g.word g.drawn, { g with drawn := g.drawn + 1 })

/-- A word as a number from zero up to one, by its upper 24 bits. -/
def fraction (w : UInt32) : Single := .ofScaled false (w >>> 8).toNat (-24)

/-- A word as a number from zero up to one, by its upper 23 bits. -/
def coarseFraction (w : UInt32) : Single := .ofScaled false (w >>> 9).toNat (-23)

end Generator

end EventRules
