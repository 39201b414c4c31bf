import Redraft.Matcher
import Redraft.Proofs.Align.Copies

/-!
A matcher asked again and again. What it drafts is a rule of the output it is given, so
neither the calls before nor the backend, which may only leave out frequent tokens, can be
told from its answers.
-/

namespace Redraft

open Align

def Backend.longest : Backend → Bool → Tokens → Tokens → Region → Block
  | sequential, autojunk => longestByIndex autojunk
  | parallel, _ => longestOnDiagonals
  | indexed, _ => longestOnDiagonals

def Backend.rule (backend : Backend) (reference : Tokens) (settings : MatchSettings) :
    Tokens → Option Block :=
  windowedLastBlock (backend.longest settings.autojunk) reference settings

def Backend.chunk (backend : Backend) (reference : Tokens) (settings : MatchSettings)
    (generated : Tokens) (maxLength : Nat) : Tokens :=
  chunkBy (backend.rule reference settings) reference settings generated maxLength

/-- The backends place the same blocks, unless the positions finder leaves out tokens. -/
theorem Backend.windowedLastBlock_longest (backend : Backend) {autojunk : Bool}
    (hjunk : autojunk = true → backend ≠ .sequential) :
    windowedLastBlock (backend.longest autojunk) = windowedLastBlock longestOnDiagonals := by
  cases backend with
  | sequential =>
      have hevery : autojunk = false :=
        (Bool.not_eq_true _).mp fun hjunked => hjunk hjunked rfl
      rw [hevery]
      exact windowedLastBlock_longestByIndex_false
  | parallel => rfl
  | indexed => rfl

theorem Backend.chunk_eq_diagonals (backend : Backend) {settings : MatchSettings}
    (hjunk : settings.autojunk = true → backend ≠ .sequential) (reference : Tokens) :
    backend.chunk reference settings =
      chunkBy (windowedLastBlock longestOnDiagonals reference settings) reference settings := by
  funext generated maxLength
  rw [chunk, rule, backend.windowedLastBlock_longest hjunk]

theorem Backend.findsCopies (backend : Backend) (autojunk : Bool) :
    FindsCopies (backend.longest autojunk) := by
  cases backend with
  | sequential => exact findsCopies_longestByIndex autojunk
  | parallel => exact findsCopies_longestOnDiagonals
  | indexed => exact findsCopies_longestOnDiagonals

namespace Matcher

inductive Call where
  | next (generated : Tokens) (maxLength : Nat)
  | reset
deriving DecidableEq, Repr

def answers : Matcher → List Call → List Tokens
  | _, [] => []
  | matcher, .next generated maxLength :: calls =>
    (matcher.nextChunk generated maxLength).1 ::
      answers (matcher.nextChunk generated maxLength).2 calls
  | matcher, .reset :: calls => answers matcher.reset calls

def Call.chunk (rule : Tokens → Option Block) (reference : Tokens) (settings : MatchSettings) :
    Call → Option Tokens
  | next generated maxLength => some (chunkBy rule reference settings generated maxLength)
  | reset => none

def Call.run (matcher : Matcher) : Call → Matcher
  | next generated maxLength => (matcher.nextChunk generated maxLength).2
  | reset => matcher.reset

def after (matcher : Matcher) (calls : List Call) : Matcher := calls.foldl Call.run matcher

def lastBlock : Matcher → Tokens → Except AlignError (Option Block)
  | sequential finder, generated => (BlockFinder.lastBlock finder generated).1
  | parallel finder, generated => (BlockFinder.lastBlock finder generated).1
  | indexed finder, generated => (BlockFinder.lastBlock finder generated).1

inductive Good (reference : Tokens) (settings : MatchSettings) : Backend → Matcher → Prop where
  | sequential {finder : PositionFinder} (good : finder.Good reference settings) :
      Good reference settings .sequential (sequential finder)
  | parallel {finder : DiagonalFinder} (good : finder = { reference, settings }) :
      Good reference settings .parallel (parallel finder)
  | indexed {finder : TableFinder} (good : finder.Good reference settings) :
      Good reference settings .indexed (indexed finder)

section Good

variable {backend : Backend} {reference : Tokens} {settings : MatchSettings}
  {matcher : Matcher}

theorem good_build (backend : Backend) (reference : Tokens) (settings : MatchSettings) :
    Good reference settings backend (build backend reference settings) := by
  cases backend with
  | sequential => exact .sequential ⟨rfl, rfl, PositionIndex.faithful_empty⟩
  | parallel => exact .parallel rfl
  | indexed => exact .indexed (TableFinder.good_new reference settings)

theorem Good.nextChunk (good : Good reference settings backend matcher) (generated : Tokens)
    (maxLength : Nat) :
    (matcher.nextChunk generated maxLength).1 =
        backend.chunk reference settings generated maxLength ∧
      Good reference settings backend (matcher.nextChunk generated maxLength).2 := by
  cases good with
  | sequential good =>
      obtain ⟨hchunk, hgood⟩ :=
        (PositionFinder.follows reference settings).nextChunk good generated maxLength
      exact ⟨hchunk, .sequential hgood⟩
  | parallel good =>
      obtain ⟨hchunk, hgood⟩ :=
        (DiagonalFinder.follows reference settings).nextChunk good generated maxLength
      exact ⟨hchunk, .parallel hgood⟩
  | indexed good =>
      obtain ⟨hchunk, hgood⟩ :=
        (TableFinder.follows reference settings).nextChunk good generated maxLength
      exact ⟨hchunk, .indexed hgood⟩

theorem Good.reset (good : Good reference settings backend matcher) :
    Good reference settings backend matcher.reset := by
  cases good with
  | sequential good =>
      exact .sequential ((PositionFinder.follows reference settings).good_clear _ good)
  | parallel good =>
      exact .parallel ((DiagonalFinder.follows reference settings).good_clear _ good)
  | indexed good =>
      exact .indexed ((TableFinder.follows reference settings).good_clear _ good)

theorem Good.lastBlock (good : Good reference settings backend matcher) (generated : Tokens) :
    matcher.lastBlock generated = .ok (backend.rule reference settings generated) := by
  cases good with
  | sequential good =>
      exact (PositionFinder.follows reference settings).lastBlock_eq _ good generated
  | parallel good =>
      exact (DiagonalFinder.follows reference settings).lastBlock_eq _ good generated
  | indexed good =>
      exact (TableFinder.follows reference settings).lastBlock_eq _ good generated

theorem Good.run (good : Good reference settings backend matcher) (call : Call) :
    Good reference settings backend (call.run matcher) := by
  cases call with
  | next generated maxLength => exact (good.nextChunk generated maxLength).2
  | reset => exact good.reset

theorem Good.after (good : Good reference settings backend matcher) (calls : List Call) :
    Good reference settings backend (matcher.after calls) := by
  induction calls generalizing matcher with
  | nil => exact good
  | cons call calls ih => exact ih (good.run call)

theorem Good.answers (good : Good reference settings backend matcher) (calls : List Call) :
    matcher.answers calls =
      calls.filterMap (Call.chunk (backend.rule reference settings) reference settings) := by
  induction calls generalizing matcher with
  | nil => rfl
  | cons call calls ih =>
      cases call with
      | next generated maxLength =>
          obtain ⟨hchunk, hgood⟩ := good.nextChunk generated maxLength
          rw [Matcher.answers, List.filterMap_cons, hchunk]
          exact congrArg _ (ih hgood)
      | reset => exact ih good.reset

end Good

/-- A matcher answers every call as if it were the only one. -/
theorem answers_build (backend : Backend) (reference : Tokens) (settings : MatchSettings)
    (calls : List Call) :
    answers (build backend reference settings) calls =
      calls.filterMap (Call.chunk (windowedLastBlock (backend.longest settings.autojunk)
        reference settings) reference settings) :=
  (good_build backend reference settings).answers calls

/-- Two backends driven by the same calls draft the same at every call. Only the positions
finder may differ, and only where frequent tokens start no match. -/
theorem backends_agree (a b : Backend) (reference : Tokens) (settings : MatchSettings)
    (hjunk : settings.autojunk = true → a ≠ .sequential ∧ b ≠ .sequential)
    (calls : List Call) :
    answers (build a reference settings) calls = answers (build b reference settings) calls := by
  rw [answers_build, answers_build, Backend.windowedLastBlock_longest a fun h => (hjunk h).1,
    Backend.windowedLastBlock_longest b fun h => (hjunk h).2]

/-- Two ways on from the same tokens, a rewound output and a new start. -/
theorem backends_agree_rewound :
    ({} : MatchSettings).autojunk = false ∧
      answers (build .sequential [1, 2, 3, 1, 2, 4] {})
          [.next [3, 1, 2] 2, .next [1, 2] 2, .reset, .next [1, 2, 3, 1] 3] =
        answers (build .indexed [1, 2, 3, 1, 2, 4] {})
          [.next [3, 1, 2] 2, .next [1, 2] 2, .reset, .next [1, 2, 3, 1] 3] :=
  ⟨rfl, backends_agree .sequential .indexed _ {} (fun h => Bool.noConfusion h) _⟩

theorem chunk_build (backend : Backend) (reference : Tokens) (settings : MatchSettings)
    (generated : Tokens) (maxLength : Nat) :
    ((build backend reference settings).nextChunk generated maxLength).1 =
      backend.chunk reference settings generated maxLength :=
  ((good_build backend reference settings).nextChunk generated maxLength).1

/-- Whatever a matcher was asked before, with outputs that grew, were cut or were written
anew, its next draft is that of a new matcher. -/
theorem calls_leave_no_trace (backend : Backend) (reference : Tokens)
    (settings : MatchSettings) (calls : List Call) (generated : Tokens) (maxLength : Nat) :
    (((build backend reference settings).after calls).nextChunk generated maxLength).1 =
      ((build backend reference settings).nextChunk generated maxLength).1 := by
  have good := (good_build backend reference settings).after calls
  rw [(good.nextChunk generated maxLength).1, chunk_build]

/-- The finder of a matcher never fails, whatever was asked before, and every block it
answers is a copy that lies inside both texts. So each draft stands in the reference behind
the last tokens of the output, and a shorter one is the beginning of a longer one. -/
theorem drafts_follow_copied_tail (backend : Backend) (reference : Tokens)
    (settings : MatchSettings) (calls : List Call) (generated : Tokens) :
    let matcher := (build backend reference settings).after calls
    (∃ last, matcher.lastBlock generated = .ok last ∧ ∀ block, last = some block →
        block.IsCopy reference generated ∧ block.inRange reference generated = .ok block) ∧
      (generated ≠ [] → ∀ budget, (matcher.nextChunk generated budget).1 ≠ [] →
        ∃ place length, CopiedTail reference settings generated place length ∧
          ∀ maxLength, 1 ≤ maxLength → (matcher.nextChunk generated maxLength).1 =
            reference.extract place (min (place + maxLength) reference.length)) := by
  have good := (good_build backend reference settings).after calls
  have hcopies : ∀ block, backend.rule reference settings generated = some block →
      block.IsCopy reference generated :=
    fun _ hblock => (backend.findsCopies settings.autojunk).windowedLastBlock hblock
  dsimp only
  refine ⟨⟨_, good.lastBlock generated, ?_⟩, ?_⟩
  · intro block hblock
    exact ⟨hcopies block hblock, (hcopies block hblock).inRange⟩
  · intro hgenerated budget hdraft
    have hchunk (maxLength : Nat) := (good.nextChunk generated maxLength).1
    simp only [hchunk] at hdraft ⊢
    exact (chunkBy_copiedTail settings hcopies hgenerated).resolve_left
      fun hnothing => hdraft (hnothing budget)

/-- The window leaves out half of the reference and the start of the output, and the calls
before were about other outputs. -/
theorem drafts_follow_copied_tail_windowed :
    let settings : MatchSettings :=
      { window := { divisor := 4, minLength := 1, referenceFactor := 2 } }
    let matcher := (build .indexed [1, 2, 3, 4, 5, 6, 7, 8] settings).after
      [.next [1, 2, 3, 9] 1, .reset, .next [1, 2] 2]
    ([9, 1, 2, 3, 4] : Tokens) ≠ [] ∧ (matcher.nextChunk [9, 1, 2, 3, 4] 1).1 ≠ [] ∧
      ∃ place length,
        CopiedTail [1, 2, 3, 4, 5, 6, 7, 8] settings [9, 1, 2, 3, 4] place length ∧
          ∀ maxLength, 1 ≤ maxLength → (matcher.nextChunk [9, 1, 2, 3, 4] maxLength).1 =
            List.extract [1, 2, 3, 4, 5, 6, 7, 8] place (min (place + maxLength) 8) := by
  have good := (good_build .indexed [1, 2, 3, 4, 5, 6, 7, 8]
    { window := { divisor := 4, minLength := 1, referenceFactor := 2 } }).after
      [.next [1, 2, 3, 9] 1, .reset, .next [1, 2] 2]
  have hchunk := (good.nextChunk [9, 1, 2, 3, 4] 1).1.trans
    (show _ = [5] by decide +kernel)
  have hgenerated : ([9, 1, 2, 3, 4] : Tokens) ≠ [] := List.cons_ne_nil _ _
  have hdraft := fun hnil => List.cons_ne_nil 5 [] (hchunk.symm.trans hnil)
  exact ⟨hgenerated, hdraft, (drafts_follow_copied_tail ..).2 hgenerated 1 hdraft⟩

end Matcher

end Redraft
