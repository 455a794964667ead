/-!
# The time

The time that a search looks at. While a program runs it is read when it is needed, by a timer; said
of a search it is a clock, which shows in advance what will be read. Each attempt of a generator
starts a timer of its own.
-/

namespace Crossword

/-- The time, in nanoseconds since a search began, at which it enters each state, or at which it
ends instead. -/
abbrev Clock := Nat → Nat

/-- The clocks of the attempts of a generator, by their numbers. -/
abbrev Clocks := Nat → Clock

/-- How the time since a search began is read when it enters a state. -/
abbrev Timer (m : Type → Type) := Nat → m Nat

/-- How the timers of the attempts of a generator are started, by their numbers. -/
abbrev Timers (m : Type → Type) := Nat → m (Timer m)

/-- The clock on which no time passes. -/
def Clock.still : Clock := fun _ => 0

/-- Clocks on which no time passes. -/
def Clocks.still : Clocks := fun _ => .still

variable {m : Type → Type} [Monad m]

/-- A clock as a timer. -/
def Clock.timer (clock : Clock) : Timer m := fun state => pure (clock state)

/-- Clocks as timers. -/
def Clocks.timers (clocks : Clocks) : Timers m := fun attempt => pure (clocks attempt).timer

/-- Timers that do not run. -/
def Timers.still : Timers m := Clocks.still.timers

end Crossword
