import Crossword.Program
import Crossword.Proofs.Attempts

/-!
# Reading the time on the way

While a program runs, what its timers show depends on the world, and reading them may change it. A
search only reads the time when it enters a state or ends, and it enters each state once. So what it
has read can be written down as a clock, state by state, and the search is the one on that clock
(`follows_placeWords`). It does not matter what the clock shows otherwise, which is why the clocks
of searches that follow each other can be put together (`Clock.switch`), and those of the attempts
of a call as well.

Main results: `Generator.exists_clocks` and `Program.exists_clocks`. Whatever its timers show, a
call is one of those on clocks, and so is the one that the program makes.
-/

namespace Crossword

namespace Clock

/-- Clocks that show the same in the states after one of them, up to another. -/
def AgreeOn (c d : Clock) (lo hi : Nat) : Prop := ∀ n, lo < n → n ≤ hi → c n = d n

/-- Goes by one clock up to a state and by another one after it. -/
def switch (c d : Clock) (n : Nat) : Clock := fun k => if k ≤ n then c k else d k

variable {c d e : Clock} {lo mid hi : Nat}

theorem AgreeOn.left (h : e.AgreeOn (switch c d mid) lo hi) (hmid : mid ≤ hi) :
    e.AgreeOn c lo mid := fun n hlo hn =>
  (h n hlo (Nat.le_trans hn hmid)).trans (if_pos hn)

theorem AgreeOn.right (h : e.AgreeOn (switch c d mid) lo hi) (hmid : lo ≤ mid) :
    e.AgreeOn d mid hi := fun n hn hhi =>
  (h n (Nat.lt_of_le_of_lt hmid hn) hhi).trans (if_neg (Nat.not_le.mpr hn))

end Clock

variable {σ : Type}

theorem run_bind_world {α β : Type} (x : StateM σ α) (f : α → StateM σ β) (s : σ) :
    (x >>= f).run s = (f (x.run s).1).run (x.run s).2 := rfl

/-- Holds of a search with a timer that is a search on clocks: whatever the world is like, there is
a clock such that the two do the same on every clock that agrees with it in the states that are
entered. -/
def Follows (timed : Walk → StateM σ (Outcome × Walk)) (search : Clock → Walk → Outcome × Walk) :
    Prop :=
  ∀ (w : Walk) (s : σ), ∃ outcome v t, ∃ clock : Clock, (timed w).run s = ((outcome, v), t) ∧
    w.statistics.states ≤ v.statistics.states ∧
    ∀ c : Clock, c.AgreeOn clock w.statistics.states v.statistics.states →
      search c w = (outcome, v)

section Search

variable {timed : Walk → StateM σ (Outcome × Walk)} {search : Clock → Walk → Outcome × Walk}

/-- Anchors are tried as on a clock, if what follows each of them is a search on clocks. -/
theorem follows_tryAnchors (h : Follows timed search) (word : String) (anchors : List Anchor) :
    Follows (tryAnchorsM word timed anchors) fun c => tryAnchors word (search c) anchors := by
  induction anchors with
  | nil => exact fun w s => ⟨.exhausted, w, s, .still, rfl, Nat.le_refl _, fun _ _ => rfl⟩
  | cons a rest ih =>
    intro w s
    cases hp : w.placement? word a with
    | none =>
      obtain ⟨outcome, v, t, clock, hrun, hle, hsame⟩ := ih w s
      refine ⟨outcome, v, t, clock, ?_, hle, fun c hc => ?_⟩
      · rw [tryAnchorsM, hp]
        exact hrun
      · simp only [tryAnchors_cons, hp]
        exact hsame c hc
    | some p =>
      obtain ⟨outcome, u, t, clock, hrun, hle, hsame⟩ := h (w.place word p) s
      cases outcome with
      | solved =>
        refine ⟨.solved, u, t, clock, ?_, hle, fun c hc => ?_⟩
        · simp only [tryAnchorsM, hp, run_bind_world, hrun]
          rfl
        · simp only [tryAnchors_cons, hp, hsame c hc]
      | abandoned =>
        refine ⟨.abandoned, u.takeBack, t, clock, ?_, hle, fun c hc => ?_⟩
        · simp only [tryAnchorsM, hp, run_bind_world, hrun]
          rfl
        · simp only [tryAnchors_cons, hp, hsame c hc]
      | exhausted =>
        obtain ⟨outcome, v, t', clock', hrun', hle', hsame'⟩ := ih u.takeBack.countBacktrack t
        refine ⟨outcome, v, t', clock.switch clock' u.statistics.states, ?_, Nat.le_trans hle hle',
          fun c hc => ?_⟩
        · simp only [tryAnchorsM, hp, run_bind_world, hrun]
          exact hrun'
        · simp only [tryAnchors_cons, hp, hsame c (hc.left hle')]
          exact hsame' c (hc.right hle)

/-- A search for one word and more is abandoned at once, or tries the anchors for the word in the
world in which the time has been read. -/
theorem run_placeWordsM {budget : Budget} {timer : Timer (StateM σ)} {first : Bool} {word : String}
    {rest : List String} {w : Walk} {s t : σ} {time : Nat}
    (hlook : (budget.look timer w.enter.statistics.states).run s = (time, t)) :
    (placeWordsM budget timer first (word :: rest) w).run s =
      if budget.spent (fun _ => time) w.enter.statistics = true then ((.abandoned, w.enter), t)
      else (tryAnchorsM word (placeWordsM budget timer false rest) (w.tries first word)
        (w.start first word)).run t := by
  simp only [placeWordsM, run_bind_world, hlook]
  split
  · rfl
  · rfl

/-- A search for words with a timer is the search on a clock. -/
theorem follows_placeWords (budget : Budget) (timer : Timer (StateM σ)) (first : Bool)
    (words : List String) :
    Follows (placeWordsM budget timer first words) fun c => placeWords budget c first words := by
  induction words generalizing first with
  | nil => exact fun w s => ⟨.solved, w, s, .still, rfl, Nat.le_refl _, fun _ _ => rfl⟩
  | cons word rest ih =>
    intro w s
    cases hlook : (budget.look timer w.enter.statistics.states).run s with
    | mk time t =>
    -- a state is entered, and a clock that agrees shows there what has been read
    have hentered : ∀ c : Clock,
        c.AgreeOn (fun _ => time) w.statistics.states w.enter.statistics.states →
        budget.spent c w.enter.statistics = budget.spent (fun _ => time) w.enter.statistics :=
      fun c hc => Budget.spent_congr (hc _ (Nat.lt_succ_self _) (Nat.le_refl _))
    cases hspent : budget.spent (fun _ => time) w.enter.statistics with
    | true =>
      refine ⟨.abandoned, w.enter, t, fun _ => time, ?_, Nat.le_succ _, fun c hc => ?_⟩
      · rw [run_placeWordsM hlook, if_pos hspent]
      · dsimp only
        rw [placeWords_cons, hentered c hc, if_pos hspent]
    | false =>
      obtain ⟨outcome, v, t', clock, hrun, hle, hsame⟩ :=
        follows_tryAnchors (ih false) word (w.tries first word) (w.start first word) t
      refine ⟨outcome, v, t', Clock.switch (fun _ => time) clock w.enter.statistics.states, ?_,
        Nat.le_trans (Nat.le_succ _) hle, fun c hc => ?_⟩
      · rw [run_placeWordsM hlook, if_neg (by simp [hspent])]
        exact hrun
      · dsimp only
        rw [placeWords_cons, hentered c (hc.left hle), if_neg (by simp [hspent])]
        exact hsame c (hc.right (Nat.le_succ _))

end Search

/-- A run with a timer is the run on a clock. -/
theorem Placer.exists_clock (p : Placer) (timer : Timer (StateM σ)) (stream : Keystream) (s : σ) :
    ∃ clock, ((p.runM timer stream).run s).1 = p.run clock stream := by
  let start : Walk :=
    ⟨p.draft, { p.statistics with attempts := p.statistics.attempts + 1 }, stream⟩
  obtain ⟨outcome, v, t, clock, htimed, -, hsame⟩ :=
    follows_placeWords p.budget timer true p.words start s
  -- the time at which the run ends is shown in the state after the last one
  let time := ((timer (v.statistics.states + 1)).run t).1
  let shown : Clock := clock.switch (fun _ => time) v.statistics.states
  have htime : shown (v.statistics.states + 1) = time := if_neg (Nat.not_succ_le_self _)
  have hsearch : placeWords p.budget shown true p.words start = (outcome, v) :=
    hsame shown fun n _ hn => if_pos hn
  refine ⟨shown, ?_⟩
  simp only [start] at htimed hsearch
  simp only [run_eq, runM, run_bind_world, htimed, hsearch, htime]
  rfl

namespace Campaign

variable (config : Config) (words : List String) (side : Nat)

/-- Attempts whose timers are started on the way are the attempts on clocks. What the clocks of
earlier attempts show does not matter. -/
theorem exists_clocks_attempts (timers : Timers (StateM σ)) (count number : Nat) (c : Campaign)
    (s : σ) : ∃ clocks : Clocks, ∀ clocks' : Clocks, (∀ i, number ≤ i → clocks' i = clocks i) →
      ((attemptsM config timers words side count number c).run s).1 =
        attempts config clocks' words side count number c := by
  induction count generalizing number c s with
  | zero => exact ⟨.still, fun _ _ => rfl⟩
  | succ count ih =>
    cases hstart : (timers number).run s with
    | mk timer u =>
    let p := Placer.onSide words side config.budget
    obtain ⟨clock, hrun⟩ := p.exists_clock timer (.ofSeed c.drawSeed.1) u
    cases htimed : (p.runM timer (.ofSeed c.drawSeed.1)).run u with
    | mk result t =>
    obtain ⟨outcome, placer, left⟩ := result
    rw [htimed] at hrun
    -- the campaign with which the attempts go on, if they do
    let noted := c.drawSeed.2.note
      ⟨number, config.maxAttempts, c.drawSeed.1, outcome, placer.statistics⟩
    let kept := noted.keep (.ofSearch placer.draft.grid placer.draft.layout placer.statistics)
    obtain ⟨clocks, hrest⟩ := ih (number + 1) (if outcome = .solved then kept else noted) t
    refine ⟨fun i => if i = number then clock else clocks i, fun clocks' hclocks => ?_⟩
    have hnumber : clocks' number = clock := (hclocks number (Nat.le_refl _)).trans (if_pos rfl)
    have hlater := hrest clocks' fun i hi => (hclocks i (by omega)).trans (if_neg (by omega))
    simp only [p] at htimed hrun
    simp only [attemptsM, attempts_more, run_bind_world, hstart, htimed, hnumber, ← hrun]
    cases outcome with
    | abandoned => exact hlater
    | exhausted => rfl
    | solved =>
      cases hcheck : placer.draft.layout.check placer.draft.grid with
      | error e => rfl
      | ok _ =>
        dsimp only
        split
        · rfl
        · exact hlater

end Campaign

/-- **The time is a clock.** Whatever the world is like in which the timers of a call are started
and read, there are clocks, one for each attempt, on which the call returns and reports the same and
leaves the same generator. So what holds of calls on all clocks holds of a call that reads the
time. -/
theorem Generator.exists_clocks (g : Generator) (timers : Timers (StateM σ)) (words : List String)
    (s : σ) : ∃ clocks, ((g.generateM timers words).run s).1 = g.generate clocks words := by
  obtain ⟨clocks, hattempts⟩ := Campaign.exists_clocks_attempts g.config (g.prepared words)
    (g.side words) timers g.config.maxAttempts 1 { seeds := g.seeds } s
  have hcall := hattempts clocks fun _ _ => rfl
  refine ⟨clocks, ?_⟩
  rw [generate_eq]
  cases haccepted : checkWords (g.prepared words) (g.side words) with
  | error e =>
    simp only [prepared, side] at haccepted
    simp only [generateM, haccepted]
    rfl
  | ok _ =>
    dsimp only
    rw [← hcall]
    simp only [prepared, side] at haccepted
    simp only [generateM, haccepted]
    rfl

/-- A call on its own that reads the time is one on clocks. -/
theorem exists_clocks_generate (config : Config) (timers : Timers (StateM σ)) (words : List String)
    (s : σ) :
    ∃ clocks, ((generateM config timers words).run s).1 = generate config clocks words := by
  unfold generate generateM
  cases Generator.ofConfig config with
  | error e => exact ⟨.still, rfl⟩
  | ok g =>
    obtain ⟨clocks, hcall⟩ := g.exists_clocks timers words s
    exact ⟨clocks, congrArg Prod.fst hcall⟩

/-- The program makes the puzzle of its word list on some clocks, whatever its timers show and
whatever reading the files does to the world. -/
theorem Program.exists_clocks (read : Reader (StateM σ)) (timers : Timers (StateM σ)) (o : Options)
    (s : σ) : ∃ clocks, ((makePuzzle read timers o).run s).1 =
      ((PuzzleInput.load read o.words o.clues o.title).run s).1.bind fun input =>
        (generate o.config clocks input.words).map fun puzzle => (input, puzzle) := by
  unfold makePuzzle
  rw [run_bind_world]
  generalize (PuzzleInput.load read o.words o.clues o.title).run s = loaded
  obtain ⟨input, t⟩ := loaded
  cases input with
  | error e => exact ⟨.still, rfl⟩
  | ok input =>
    obtain ⟨clocks, hcall⟩ := exists_clocks_generate o.config timers input.words t
    refine ⟨clocks, ?_⟩
    show Except.map _ ((generateM o.config timers input.words).run t).1 = _
    rw [hcall]
    rfl

end Crossword
