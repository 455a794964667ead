import Crossword.Candidates
import Crossword.Draft
import Crossword.Random.Shuffle
import Crossword.Search.Budget
import Crossword.WordList

/-!
# The placement search

Words are placed one after the other, depth first. The first word is centred, every later one
crosses a letter that is already there. The anchors on offer are tried in random order; a word for
which none of them leads to a full layout is an end, and the word before it is taken back. A search
that finds no layout leaves the draft as it was.

The time is read by a timer, in whatever monad it runs. Where it is that of a clock, the search is a
function, which takes one step after the other as `tryAnchors_cons` and `placeWords_step` say.
-/

namespace Crossword

/-- How a search ended. -/
inductive Outcome where
  /-- Every word is placed. -/
  | solved
  /-- Everything was tried in vain. -/
  | exhausted
  /-- The budget ran out first. -/
  | abandoned
  deriving DecidableEq

/-- A search under way. -/
structure Walk where
  draft : Draft
  statistics : Statistics
  stream : Keystream

namespace Walk

/-- Counts a state. -/
def enter (w : Walk) : Walk :=
  { w with statistics := { w.statistics with states := w.statistics.states + 1 } }

/-- Counts a placement that led nowhere. -/
def countBacktrack (w : Walk) : Walk :=
  { w with statistics := { w.statistics with backtracks := w.statistics.backtracks + 1 } }

/-- The anchors for the next word: the centre for the first one, else the crossings. -/
def anchorsFor (w : Walk) (first : Bool) (word : String) : List Anchor :=
  if first then w.draft.grid.centreAnchors word else w.draft.layout.crossings w.draft.grid word

/-- Counts the anchors on offer and shuffles them. -/
def offer (w : Walk) (anchors : List Anchor) : List Anchor × Walk :=
  let (shuffled, stream) := shuffle anchors w.stream
  (shuffled,
    { w with
      statistics :=
        { w.statistics with candidates := w.statistics.candidates + anchors.length }
      stream })

/-- Where a word lies if it begins at an anchor. -/
def placement? (w : Walk) (word : String) (a : Anchor) : Option Placement :=
  Placement.ofAnchor? a word.length w.draft.grid.rows w.draft.grid.cols

/-- Places a word. -/
def place (w : Walk) (word : String) (placement : Placement) : Walk :=
  let draft := w.draft.commit word placement
  { w with
    draft
    statistics :=
      { w.statistics with deepest := max w.statistics.deepest draft.layout.size } }

/-- Takes the latest word back. -/
def takeBack (w : Walk) : Walk := { w with draft := w.draft.undo }

end Walk

section Search

variable {m : Type → Type} [Monad m]

/-- Tries a word at each anchor in turn, followed by the search for the words after it, until that
search places them all or is abandoned. -/
@[specialize]
def tryAnchorsM (word : String) (next : Walk → m (Outcome × Walk)) :
    List Anchor → Walk → m (Outcome × Walk)
  | [], w => pure (.exhausted, w)
  | a :: rest, w =>
    match w.placement? word a with
    | none => tryAnchorsM word next rest w
    | some placement => do
      match ← next (w.place word placement) with
      | (.solved, w) => pure (.solved, w)
      | (.abandoned, w) => pure (.abandoned, w.takeBack)
      | (.exhausted, w) => tryAnchorsM word next rest w.takeBack.countBacktrack

/-- Places the words of a list, the longest of all being the first. -/
@[specialize]
def placeWordsM (budget : Budget) (timer : Timer m) : (first : Bool) → List String → Walk →
    m (Outcome × Walk)
  | _, [], w => pure (.solved, w)
  | first, word :: rest, w => do
    let w := w.enter
    let time ← budget.look timer w.statistics.states
    if budget.spent (fun _ => time) w.statistics then
      pure (.abandoned, w)
    else
      let (anchors, w) := w.offer (w.anchorsFor first word)
      tryAnchorsM word (fun w => placeWordsM budget timer false rest w) anchors w

end Search

/-- As `tryAnchorsM`, where the search for the words after it is a function. -/
def tryAnchors (word : String) (next : Walk → Outcome × Walk) (anchors : List Anchor) (w : Walk) :
    Outcome × Walk :=
  Id.run (tryAnchorsM word next anchors w)

/-- As `placeWordsM`, where the time is that of a clock. -/
def placeWords (budget : Budget) (clock : Clock) (first : Bool) (words : List String) (w : Walk) :
    Outcome × Walk :=
  Id.run (placeWordsM budget clock.timer first words w)

section Equations

variable {word : String} {next : Walk → Outcome × Walk} {a : Anchor} {anchors : List Anchor}
  {w : Walk}

theorem tryAnchors_cons : tryAnchors word next (a :: anchors) w =
    match w.placement? word a with
    | none => tryAnchors word next anchors w
    | some placement =>
      match next (w.place word placement) with
      | (.solved, w) => (.solved, w)
      | (.abandoned, w) => (.abandoned, w.takeBack)
      | (.exhausted, w) => tryAnchors word next anchors w.takeBack.countBacktrack :=
  rfl

theorem placeWords_step (budget : Budget) (clock : Clock) (first : Bool) (word : String)
    (rest : List String) (w : Walk) : placeWords budget clock first (word :: rest) w =
      let w := w.enter
      if budget.spent clock w.statistics then
        (.abandoned, w)
      else
        let (anchors, w) := w.offer (w.anchorsFor first word)
        tryAnchors word (fun w => placeWords budget clock false rest w) anchors w := by
  dsimp only
  rw [← Budget.spent_look]
  rfl

end Equations

/-- A list of words with the draft on which they are placed and the counters of its searches. -/
structure Placer where
  /-- The words in the order in which they are placed. -/
  words : List String
  draft : Draft
  budget : Budget
  statistics : Statistics

namespace Placer

/-- A placer for words on a blank square grid. -/
def onSide (words : List String) (side : Nat) (budget : Budget) : Placer :=
  ⟨orderWords words, .blank side, budget, {}⟩

/-- A placer for words on a square grid of a given side, if the words are acceptable there. -/
def ofWordsOnSide (words : List String) (side : Nat) (budget : Budget) : Except Error Placer := do
  checkWords words side
  return onSide words side budget

/-- A placer for words on the square grid that suits them. -/
def ofWords (words : List String) (budget : Budget) : Except Error Placer :=
  ofWordsOnSide words (Grid.sideFor words) budget

/-- Searches for a layout of all words. A search that succeeds leaves it in the draft; a later one
goes on from there. -/
@[specialize]
def runM {m : Type → Type} [Monad m] (p : Placer) (timer : Timer m) (stream : Keystream) :
    m (Outcome × Placer × Keystream) := do
  let statistics := { p.statistics with attempts := p.statistics.attempts + 1 }
  let (outcome, w) ← placeWordsM p.budget timer true p.words ⟨p.draft, statistics, stream⟩
  let time ← timer (w.statistics.states + 1)
  let statistics := { w.statistics with elapsed := w.statistics.elapsed + time }
  return (outcome, { p with draft := w.draft, statistics }, w.stream)

/-- As `runM`, where the time is that of a clock. -/
def run (p : Placer) (clock : Clock) (stream : Keystream) : Outcome × Placer × Keystream :=
  Id.run (p.runM clock.timer stream)

theorem run_eq (p : Placer) (clock : Clock) (stream : Keystream) : p.run clock stream =
    let statistics := { p.statistics with attempts := p.statistics.attempts + 1 }
    let (outcome, w) := placeWords p.budget clock true p.words ⟨p.draft, statistics, stream⟩
    let time := clock (w.statistics.states + 1)
    let statistics := { w.statistics with elapsed := w.statistics.elapsed + time }
    (outcome, { p with draft := w.draft, statistics }, w.stream) :=
  rfl

/-- The error of a single search that did not place all words. -/
def failure? (p : Placer) : Outcome → Option Error
  | .solved => none
  | .exhausted => some (.infeasible 1 p.statistics.deepest p.words.length)
  | .abandoned => some (.searchAbandoned 1 p.statistics.backtracks)

end Placer

/-- Searches once for a layout of a list of words. -/
def layOut (words : List String) (budget : Budget) (clock : Clock) (stream : Keystream) :
    Except Error Draft × Keystream :=
  match Placer.ofWords words budget with
  | .error e => (.error e, stream)
  | .ok placer =>
    let (outcome, placer, stream) := placer.run clock stream
    match placer.failure? outcome with
    | none => (.ok placer.draft, stream)
    | some e => (.error e, stream)

end Crossword
