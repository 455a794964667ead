import Mathlib
import Crossword.Proofs.CampaignSteps
import Crossword.Proofs.Results

/-!
# Calls one after the other

A generator can be called any number of times, each call going on with the stream of seeds that the
earlier ones have left. `Generator.calls` makes such a sequence of calls.

Main result: `Generator.calls_draw_in_order`. All calls together draw the seeds that they report,
each of them once and in order; a call with refused words draws none, so that such calls can be left
out without any other one being changed. Both follow from what one call does
(`Generator.generate_draws`, `Generator.generate_of_refuses`) by induction on the sequence.
-/

namespace Crossword

/-- The items of a list that are marked with true. -/
def marked {α : Type} : List Bool → List α → List α
  | true :: marks, x :: rest => x :: marked marks rest
  | false :: marks, _ :: rest => marked marks rest
  | _, _ => []

@[simp] theorem Keystream.length_draws (k : Keystream) (n : Nat) : (k.draws n).length = n := by
  rw [draws, List.length_map, List.length_range]

namespace Generator

/-- Calls one after the other: what each of them returned and reported, and the generator after the
last. -/
def calls (g : Generator) :
    List (Clocks × List String) → List (Except Error Puzzle × Array Report) × Generator
  | [] => ([], g)
  | (clocks, words) :: rest =>
    let (result, reports, g) := g.generate clocks words
    let (answers, g) := g.calls rest
    ((result, reports) :: answers, g)

variable {g : Generator}

theorem calls_cons (clocks : Clocks) (words : List String) (rest : List (Clocks × List String)) :
    g.calls ((clocks, words) :: rest) =
      (((g.generate clocks words).1, (g.generate clocks words).2.1) ::
        ((g.generate clocks words).2.2.calls rest).1,
        ((g.generate clocks words).2.2.calls rest).2) := rfl

/-! ## One call -/

/-- Words are bad input for a call just if they are refused. -/
theorem invalidInput_iff_refuses {clocks : Clocks} {words : List String} :
    (∃ fault, (g.generate clocks words).1 = .error (.invalidInput fault)) ↔ g.Refuses words := by
  refine ⟨fun h => ?_, fun h => ?_⟩
  · obtain ⟨fault, hfault⟩ := h
    by_contra haccepted
    obtain ⟨result, c, hcall, hends⟩ := g.exists_ends clocks (not_refuses_iff.mp haccepted)
    rw [hcall] at hfault
    exact hends.not_invalidInput fault hfault
  · obtain ⟨fault, hcall⟩ := generate_of_refuses clocks h
    exact ⟨fault, by rw [hcall]⟩

/-- A call draws the seeds that it reports and no other, and changes nothing but the stream of
seeds. -/
theorem generate_draws (g : Generator) (clocks : Clocks) (words : List String) :
    ∃ n, (g.generate clocks words).2.2 = { g with seeds := g.seeds.after n } ∧
      (g.generate clocks words).2.1.toList.map (·.seed) = g.seeds.draws n := by
  by_cases hrefuses : g.Refuses words
  · obtain ⟨fault, hcall⟩ := generate_of_refuses clocks hrefuses
    rw [hcall]
    exact ⟨0, rfl, rfl⟩
  · obtain ⟨result, c, hcall, hends⟩ := g.exists_ends clocks (not_refuses_iff.mp hrefuses)
    obtain ⟨n, hseeds, hreports⟩ := hends.draws
    rw [hcall]
    exact ⟨n, by rw [← hseeds], hreports⟩

theorem config_generate (g : Generator) (clocks : Clocks) (words : List String) :
    (g.generate clocks words).2.2.config = g.config := by
  obtain ⟨n, hleft, -⟩ := g.generate_draws clocks words
  rw [hleft]

/-- Which words are refused does not depend on the stream of seeds. -/
theorem refuses_congr {h : Generator} (hconfig : h.config = g.config) (words : List String) :
    h.Refuses words ↔ g.Refuses words := by
  unfold Refuses side prepared
  rw [hconfig]

/-! ## Sequences of calls -/

/-- Calls draw the seeds that they report and no other, in the order of the calls. -/
theorem calls_draws (g : Generator) (inputs : List (Clocks × List String)) :
    ∃ n, (g.calls inputs).2 = { g with seeds := g.seeds.after n } ∧
      ((g.calls inputs).1.flatMap fun answer => answer.2.toList).map (·.seed) =
        g.seeds.draws n := by
  induction inputs generalizing g with
  | nil => exact ⟨0, rfl, rfl⟩
  | cons input rest ih =>
    obtain ⟨clocks, words⟩ := input
    obtain ⟨m, hleft, hfirst⟩ := g.generate_draws clocks words
    obtain ⟨n, hend, hrest⟩ := ih (g.generate clocks words).2.2
    rw [calls_cons, List.flatMap_cons, List.map_append, hfirst, hrest, hend, hleft,
      Keystream.after_after, ← Keystream.draws_add]
    exact ⟨m + n, rfl, rfl⟩

/-- Calls with refused words can be left out of a sequence: the other calls give the same answers
as before, and leave the same generator. -/
theorem calls_marked {inputs : List (Clocks × List String)} {marks : List Bool}
    (hlength : marks.length = inputs.length)
    (hrefused : ∀ call ∈ marks.zip inputs, call.1 = false → g.Refuses call.2.2) :
    g.calls (marked marks inputs) = (marked marks (g.calls inputs).1, (g.calls inputs).2) := by
  induction inputs generalizing g marks with
  | nil =>
    obtain rfl : marks = [] := List.length_eq_zero_iff.mp hlength
    rfl
  | cons input rest ih =>
    obtain ⟨clocks, words⟩ := input
    cases marks with
    | nil => cases hlength
    | cons mark marks =>
      rw [List.length_cons, List.length_cons, Nat.add_right_cancel_iff] at hlength
      rw [List.zip_cons_cons, List.forall_mem_cons] at hrefused
      obtain ⟨hfirst, hlater⟩ := hrefused
      cases mark with
      | true =>
        have hrest := ih (g := (g.generate clocks words).2.2) hlength fun call hcall hmark =>
          (refuses_congr (g.config_generate clocks words) _).mpr (hlater call hcall hmark)
        show g.calls ((clocks, words) :: marked marks rest) = _
        rw [calls_cons, calls_cons, hrest]
        rfl
      | false =>
        -- the call that is left out has left the generator as it was
        obtain ⟨fault, hcall⟩ := generate_of_refuses clocks (hfirst rfl)
        show g.calls (marked marks rest) = _
        rw [calls_cons, hcall]
        exact ih hlength hlater

/-- **Calls use up the seeds in order.** A generator with acceptable parameters can be called any
number of times, with any words and clocks. The seeds of all reports, call after call, are then the
first numbers of the stream of the seed that it was set up with, as many as there are reports, and
the generator goes on with the next one. A call is told that its input is bad just if its words are
refused; it reports nothing then, and leaves the generator as it was. So calls of this kind can be
left out of a sequence, or put into it, at any places: the result and the reports of every other
call stay the same. -/
theorem calls_draw_in_order {config : Config} (hvalid : config.check = .ok ()) :
    ∃ g, ofConfig config = .ok g ∧ ∀ inputs : List (Clocks × List String),
      let reports := (g.calls inputs).1.flatMap fun answer => answer.2.toList
      let left := (g.calls inputs).2
      reports.map (·.seed) = (Keystream.ofSeed config.seed).draws reports.length ∧
      left.seeds = (Keystream.ofSeed config.seed).after reports.length ∧
      (∀ clocks words,
        ((∃ fault, (left.generate clocks words).1 = .error (.invalidInput fault)) ↔
          g.Refuses words) ∧
        (g.Refuses words → (left.generate clocks words).2 = (#[], left))) ∧
      ∀ marks : List Bool, marks.length = inputs.length →
        (∀ call ∈ marks.zip inputs, call.1 = false → g.Refuses call.2.2) →
        g.calls (marked marks inputs) = (marked marks (g.calls inputs).1, left) := by
  refine ⟨⟨config, .ofSeed config.seed⟩, by rw [ofConfig, hvalid]; rfl, fun inputs => ?_⟩
  intro reports left
  obtain ⟨n, hleft, hseeds⟩ := calls_draws ⟨config, .ofSeed config.seed⟩ inputs
  have hcount : reports.length = n := by
    rw [← List.length_map (f := fun report : Report => report.seed), hseeds,
      Keystream.length_draws]
  have hconfig : left.config = config := congrArg Generator.config hleft
  refine ⟨?_, ?_, fun clocks words => ⟨?_, fun hrefuses => ?_⟩, fun marks => calls_marked⟩
  · rw [hcount]
    exact hseeds
  · rw [hcount]
    exact congrArg Generator.seeds hleft
  · rw [invalidInput_iff_refuses]
    exact refuses_congr hconfig words
  · obtain ⟨fault, hcall⟩ :=
      generate_of_refuses clocks ((refuses_congr hconfig words).mpr hrefuses)
    rw [hcall]

/-- Between two lists of words, the one solved and the other infeasible, a list without words is
called: two seeds are drawn, and the two others are answered as they would be without it. -/
theorem calls_around_no_words :
    ∃ g, ofConfig .usual = .ok g ∧
      ((g.calls [(.still, ["ABC", "CDA"]), (.still, []), (.still, ["AB", "CD"])]).1.flatMap
        fun answer => answer.2.toList).map (·.seed) = (Keystream.ofSeed 42).draws 2 ∧
      (g.calls [(.still, ["ABC", "CDA"]), (.still, ["AB", "CD"])]).1 = marked [true, false, true]
        (g.calls [(.still, ["ABC", "CDA"]), (.still, []), (.still, ["AB", "CD"])]).1 := by
  have hvalid : Config.usual.check = .ok () := rfl
  obtain ⟨g, hg, hcalls⟩ := calls_draw_in_order hvalid
  obtain rfl : (⟨.usual, .ofSeed 42⟩ : Generator) = g := Except.ok.inj hg
  obtain ⟨hseeds, -, -, hmarked⟩ :=
    hcalls [(.still, ["ABC", "CDA"]), (.still, []), (.still, ["AB", "CD"])]
  have hcount : (((⟨.usual, .ofSeed 42⟩ : Generator).calls
      [(.still, ["ABC", "CDA"]), (.still, []), (.still, ["AB", "CD"])]).1.flatMap
        fun answer => answer.2.toList).length = 2 := by cbv
  rw [hcount] at hseeds
  refine ⟨_, rfl, hseeds, congrArg Prod.fst (hmarked [true, false, true] rfl ?_)⟩
  intro call hcall hmark
  -- the call that is left out is the one without words
  simp only [List.zip_cons_cons, List.zip_nil_left, List.mem_cons, List.not_mem_nil,
    or_false] at hcall
  obtain rfl | rfl | rfl := hcall
  · cases hmark
  · exact Or.inl rfl
  · cases hmark

end Generator

end Crossword
