import Redraft.Proofs.Draft.Limits

namespace Redraft

/-- So many draft tokens may stand behind the context. -/
def Settings.Allows (settings : Settings) (context : Tokens) (count : Nat) : Prop :=
  count ≤ settings.speculativeTokens ∧ count ≤ settings.maxModelLength - context.length

instance (settings : Settings) (context : Tokens) (count : Nat) :
    Decidable (settings.Allows context count) :=
  inferInstanceAs (Decidable (_ ∧ _))

namespace Draft

variable {μ : Type}

/-- A draft without padding, and the context it was given for. -/
structure Offer where
  context : Tokens
  draft : Tokens
deriving DecidableEq, Repr

inductive Request where
  | step (id : Option RequestId) (context output : Tokens)
  | single (context : Tokens) (output : Option Tokens) (id : Option RequestId)
  | slots (running : List BatchSlot)
  | slotDrafter (id : Option RequestId) (context output : Tokens)
  | batch (groups : List SequenceGroup) (sampleLength : Nat)
  | paddedDrafter (id : Option RequestId) (context output : Tokens)
deriving DecidableEq, Repr

namespace Request

def groupOffers (groups : List SequenceGroup)
    (outputs : Option (List (Option PaddedDraft))) : List Offer :=
  List.zipWith (fun group draft => ⟨group.context, PaddedDraft.proposedOf draft⟩) groups
    (outputs.getD (List.replicate groups.length none))

def answer : Request → Proposer μ → List Offer × Proposer μ
  | step id context output, proposer =>
    let (proposal, proposer) := proposer.propose id context output
    ([⟨context, proposal.tokens⟩], proposer)
  | single context output id, proposer =>
    let (draft, proposer) := proposer.draftFor context output id
    ([⟨context, draft.getD []⟩], proposer)
  | slots running, proposer =>
    let (drafts, proposer) := proposer.draftBatch running
    (List.zipWith (fun slot draft => ⟨slot.context, draft⟩) running drafts, proposer)
  | slotDrafter id context output, proposer =>
    let (draft, proposer) := Draft.slotDrafter.propose proposer id context output
    ([⟨context, draft⟩], proposer)
  | batch groups sampleLength, proposer =>
    let (outputs, proposer) := proposer.paddedOutputs groups sampleLength
    (groupOffers groups outputs, proposer)
  | paddedDrafter id context output, proposer =>
    let (draft, proposer) := Draft.paddedDrafter.propose proposer id context output
    ([⟨context, draft⟩], proposer)

end Request

structure Question where
  context : Tokens
  limit : Nat
  answer : Tokens
deriving DecidableEq, Repr

def Question.offer (question : Question) : Offer :=
  ⟨question.context, question.answer.take question.limit⟩

def Fallback.questions (fallback : Fallback μ) (limit : Nat) :
    μ → List Tokens → List Question
  | _, [] => []
  | memory, context :: contexts =>
    let (answer, memory) := fallback.propose memory context limit
    ⟨context, limit, answer⟩ :: questions fallback limit memory contexts

namespace Proposer

def questions (proposer : Proposer μ) (contexts : List Tokens) (limit : Nat) :
    List Question :=
  if limit = 0 ∨ proposer.toggles.ngramFallback = false then []
  else
    match proposer.fallback with
    | none => []
    | some fallback => fallback.questions limit proposer.memory contexts

def Defers (proposer : Proposer μ) (groups : List SequenceGroup) (sampleLength : Nat) :
    Prop :=
  proposer.toggles.speculativeEdit = true →
    (proposer.referenceOutputs groups sampleLength).1.all Option.isNone = true

instance (proposer : Proposer μ) (groups : List SequenceGroup) (sampleLength : Nat) :
    Decidable (proposer.Defers groups sampleLength) :=
  inferInstanceAs (Decidable (_ → _))

/-- The questions of a batch. They carry the sample length, not the budget. -/
def batchQuestions (proposer : Proposer μ) (groups : List SequenceGroup)
    (sampleLength : Nat) : List Question :=
  if proposer.Defers groups sampleLength then
    proposer.questions (groups.map (·.context)) sampleLength
  else []

end Proposer

/-- The questions to the fallback for which the budget is not looked at. -/
def Request.unbudgeted : Request → Proposer μ → List Question
  | batch groups sampleLength, proposer => proposer.batchQuestions groups sampleLength
  | paddedDrafter none context _, proposer =>
    proposer.questions [context] proposer.speculativeTokens
  | paddedDrafter (some id) context output, proposer =>
    proposer.batchQuestions [⟨id, context, output⟩] proposer.speculativeTokens
  | _, _ => []

namespace Proposer

theorem questions_onlySessions {before after : Proposer μ}
    (honly : before.OnlySessions after) (contexts : List Tokens) (limit : Nat) :
    after.questions contexts limit = before.questions contexts limit := by
  obtain ⟨_, rfl⟩ := honly
  rfl

section Asked

variable {proposer : Proposer μ} {fallback : Fallback μ} {limit : Nat}

theorem askFallback_tokens (hfallback : proposer.fallback = some fallback)
    (hasked : ¬(limit = 0 ∨ proposer.toggles.ngramFallback = false)) (context : Tokens) :
    (proposer.askFallback context limit).1.tokens =
      (fallback.propose proposer.memory context limit).1.take limit := by
  unfold askFallback
  rw [if_neg hasked, hfallback]
  dsimp only
  split
  · rename_i hnone
    exact hnone.symm
  · rfl

theorem askFallback_state (hfallback : proposer.fallback = some fallback)
    (hasked : ¬(limit = 0 ∨ proposer.toggles.ngramFallback = false)) (context : Tokens) :
    (proposer.askFallback context limit).2 =
      { proposer with
        memory := (fallback.propose proposer.memory context limit).2 } := by
  unfold askFallback
  rw [if_neg hasked, hfallback]
  dsimp only
  split
  · rfl
  · rfl

theorem offers_fallbackOutput (hfallback : proposer.fallback = some fallback)
    (hasked : ¬(limit = 0 ∨ proposer.toggles.ngramFallback = false))
    (groups : List SequenceGroup) :
    List.zipWith (fun group draft => ⟨group.context, PaddedDraft.proposedOf draft⟩) groups
        (answerAll (fallbackOutput limit) proposer groups).1 =
      (fallback.questions limit proposer.memory
        (groups.map (·.context))).map Question.offer := by
  induction groups generalizing proposer with
  | nil => rfl
  | cons group groups ih =>
      have hnext := askFallback_state hfallback hasked group.context
      have hfallback' : (proposer.askFallback group.context limit).2.fallback =
          some fallback := by
        rw [hnext]
        exact hfallback
      have hasked' : ¬(limit = 0 ∨
          (proposer.askFallback group.context limit).2.toggles.ngramFallback = false) := by
        rw [hnext]
        exact hasked
      have hlater := ih hfallback' hasked'
      have hmemory : (proposer.askFallback group.context limit).2.memory =
          (fallback.propose proposer.memory group.context limit).2 := by
        rw [hnext]
      have hfirst : PaddedDraft.proposedOf (fallbackOutput limit proposer group).1 =
          (fallback.propose proposer.memory group.context limit).1.take limit := by
        rw [fallbackOutput, PaddedDraft.proposedOf_pad?,
          askFallback_tokens hfallback hasked, List.take_take, Nat.min_self]
      rw [hmemory] at hlater
      rw [answerAll, List.zipWith_cons_cons, hfirst, List.map_cons, Fallback.questions,
        List.map_cons]
      exact congrArg (List.cons _) hlater

end Asked

def Fits (proposer : Proposer μ) (offers : List Offer) : Prop :=
  ∀ offer ∈ offers, offer.draft.length ≤ proposer.budget offer.context.length

def Suffices (proposer : Proposer μ) (questions : List Question) : Prop :=
  ∀ question ∈ questions,
    min question.limit question.answer.length ≤ proposer.budget question.context.length

theorem fits_offer_iff (proposer : Proposer μ) (questions : List Question) :
    proposer.Fits (questions.map Question.offer) ↔ proposer.Suffices questions := by
  unfold Fits Suffices
  rw [List.forall_mem_map]
  simp only [Question.offer, List.length_take]

theorem fits_singleton (proposer : Proposer μ) (context draft : Tokens) :
    proposer.Fits [⟨context, draft⟩] ↔ draft.length ≤ proposer.budget context.length :=
  List.forall_mem_singleton

theorem suffices_nil (proposer : Proposer μ) : proposer.Suffices [] :=
  fun _ hquestion => absurd hquestion List.not_mem_nil

theorem Keeps.fits_iff {before after : Proposer μ} (hkeeps : before.Keeps after)
    (offers : List Offer) : after.Fits offers ↔ before.Fits offers := by
  simp only [Fits, hkeeps.budget]

theorem Keeps.suffices_iff {before after : Proposer μ} (hkeeps : before.Keeps after)
    (questions : List Question) :
    after.Suffices questions ↔ before.Suffices questions := by
  simp only [Suffices, hkeeps.budget]

theorem fits_of_zip {α β : Type} {proposer : Proposer μ} {questions : List α}
    {drafts : List β} {context : α → Tokens} {draft : β → Tokens}
    (hfits : ∀ question reply, (question, reply) ∈ questions.zip drafts →
      (draft reply).length ≤ proposer.budget (context question).length) :
    proposer.Fits
      (List.zipWith (fun question reply => ⟨context question, draft reply⟩) questions
        drafts) := by
  intro offer hoffer
  rw [← List.map_uncurry_zip_eq_zipWith, List.mem_map] at hoffer
  obtain ⟨⟨question, reply⟩, hmember, rfl⟩ := hoffer
  exact hfits question reply hmember

end Proposer

namespace Request

theorem groupOffers_ifAny {groups : List SequenceGroup}
    {outputs : List (Option PaddedDraft)} (hlength : outputs.length = groups.length) :
    groupOffers groups (Proposer.outputsIfAny outputs) =
      List.zipWith (fun group draft => ⟨group.context, PaddedDraft.proposedOf draft⟩)
        groups outputs := by
  unfold groupOffers Proposer.outputsIfAny
  split
  · rename_i hnone
    have hreplicate : outputs = List.replicate groups.length none := by
      rw [List.eq_replicate_iff]
      exact ⟨hlength, fun output houtput =>
        Option.isNone_iff_eq_none.1 (List.all_eq_true.1 hnone output houtput)⟩
    rw [Option.getD_none, ← hreplicate]
  · rfl

theorem fits_groupOffers_none (proposer : Proposer μ) (groups : List SequenceGroup) :
    proposer.Fits (groupOffers groups none) := by
  apply Proposer.fits_of_zip
  intro group draft hdraft
  have hnone := List.eq_of_mem_replicate (List.of_mem_zip hdraft).2
  rw [hnone]
  exact Nat.zero_le _

end Request

namespace Proposer

theorem questions_of_idle (proposer : Proposer μ) {contexts : List Tokens} {limit : Nat}
    (hidle : limit = 0 ∨ contexts = []) : proposer.questions contexts limit = [] := by
  unfold questions
  rcases hidle with hzero | hempty
  · rw [if_pos (Or.inl hzero)]
  · split
    · rfl
    · split
      · rfl
      · rw [hempty]
        rfl

theorem fits_askFallback (proposer : Proposer μ) (context : Tokens) (limit : Nat) :
    proposer.Fits [⟨context, (proposer.askFallback context limit).1.tokens⟩] ↔
      proposer.Suffices (proposer.questions [context] limit) := by
  by_cases hasked : limit = 0 ∨ proposer.toggles.ngramFallback = false
  · rw [questions, if_pos hasked, askFallback, if_pos hasked, fits_singleton]
    exact iff_of_true (Nat.zero_le _) proposer.suffices_nil
  · cases hfallback : proposer.fallback with
    | none =>
        rw [questions, if_neg hasked, askFallback, if_neg hasked, hfallback, fits_singleton]
        exact iff_of_true (Nat.zero_le _) proposer.suffices_nil
    | some fallback =>
        rw [askFallback_tokens hfallback hasked, questions, if_neg hasked, hfallback,
          ← fits_offer_iff]
        rfl

theorem fits_fallbackOutputs (proposer : Proposer μ) (groups : List SequenceGroup)
    {sampleLength : Nat} (hpositive : sampleLength ≠ 0) :
    proposer.Fits
        (Request.groupOffers groups (proposer.fallbackOutputs groups sampleLength).1) ↔
      proposer.Suffices (proposer.questions (groups.map (·.context)) sampleLength) := by
  have hnone := iff_of_true (Request.fits_groupOffers_none proposer groups)
    proposer.suffices_nil
  by_cases hoff : proposer.toggles.ngramFallback = false
  · rw [fallbackOutputs, if_pos (Or.inl hoff), questions, if_pos (Or.inr hoff)]
    exact hnone
  · have hasked : ¬(sampleLength = 0 ∨ proposer.toggles.ngramFallback = false) :=
      not_or.2 ⟨hpositive, hoff⟩
    cases hfallback : proposer.fallback with
    | none =>
        rw [fallbackOutputs, hfallback, if_pos (Or.inr Option.isNone_none), questions,
          if_neg hasked, hfallback]
        exact hnone
    | some fallback =>
        have hinstalled : ¬(some fallback).isNone = true := Bool.false_ne_true
        have hlength := length_answerAll (fallbackOutput sampleLength) proposer groups
        have hoffers := (Request.groupOffers_ifAny hlength).trans
          (offers_fallbackOutput hfallback hasked groups)
        rw [questions, if_neg hasked, hfallback, fallbackOutputs, hfallback,
          if_neg (not_or.2 ⟨hoff, hinstalled⟩)]
        dsimp only
        rw [hoffers, fits_offer_iff]

theorem fits_referenceOutputs (proposer : Proposer μ) (groups : List SequenceGroup)
    (sampleLength : Nat) :
    proposer.Fits (Request.groupOffers groups
      (some (proposer.referenceOutputs groups sampleLength).1)) :=
  fits_of_zip fun _ _ hdraft => length_referenceOutputs_le hdraft

theorem fits_paddedOutputs (proposer : Proposer μ) (groups : List SequenceGroup)
    (sampleLength : Nat) :
    proposer.Fits
        (Request.groupOffers groups (proposer.paddedOutputs groups sampleLength).1) ↔
      proposer.Suffices (proposer.batchQuestions groups sampleLength) := by
  have honly := onlySessions_referenceOutputs proposer groups sampleLength
  by_cases hidle : sampleLength = 0 ∨ groups.isEmpty
  · have hquestions : proposer.questions (groups.map (·.context)) sampleLength = [] :=
      questions_of_idle proposer (hidle.imp id fun hempty => by
        rw [List.isEmpty_iff.1 hempty, List.map_nil])
    rw [paddedOutputs, if_pos hidle, batchQuestions, hquestions, ite_self]
    exact iff_of_true (Request.fits_groupOffers_none proposer groups)
      proposer.suffices_nil
  · have hpositive : sampleLength ≠ 0 := fun hzero => hidle (Or.inl hzero)
    rw [paddedOutputs, if_neg hidle]
    by_cases hoff : proposer.toggles.speculativeEdit = false
    · have hdefers : proposer.Defers groups sampleLength := fun hon => by
        rw [hoff] at hon
        cases hon
      rw [if_pos hoff, batchQuestions, if_pos hdefers]
      exact fits_fallbackOutputs proposer groups hpositive
    · rw [if_neg hoff]
      dsimp only
      by_cases hall : (proposer.referenceOutputs groups sampleLength).1.all Option.isNone
      · have hany : outputsIfAny (answerAll (referenceOutput sampleLength) proposer
            groups).1 = none := if_pos hall
        have hdefers : proposer.Defers groups sampleLength := fun _ => hall
        have hfallback := fits_fallbackOutputs
          (proposer.referenceOutputs groups sampleLength).2 groups hpositive
        rw [honly.keeps.fits_iff, honly.keeps.suffices_iff,
          questions_onlySessions honly] at hfallback
        rw [hany, batchQuestions, if_pos hdefers]
        exact hfallback
      · have hany : outputsIfAny (answerAll (referenceOutput sampleLength) proposer
            groups).1 = some (proposer.referenceOutputs groups sampleLength).1 := if_neg hall
        have hdefers : ¬proposer.Defers groups sampleLength := fun hdefers =>
          hall (hdefers ((Bool.not_eq_false _).mp hoff))
        rw [hany, batchQuestions, if_neg hdefers]
        exact iff_of_true (fits_referenceOutputs proposer groups sampleLength)
          proposer.suffices_nil

theorem groupOffers_singleton (group : SequenceGroup)
    {outputs : Option (List (Option PaddedDraft))}
    (hlength : ∀ drafts, outputs = some drafts → drafts.length = 1) :
    Request.groupOffers [group] outputs =
      [⟨group.context,
        (((outputs.bind (·.getLast?)).join.map (·.unpadded)).getD [])⟩] := by
  cases outputs with
  | none => rfl
  | some drafts =>
      obtain ⟨draft, hdraft⟩ := List.length_eq_one_iff.1 (hlength drafts rfl)
      rw [hdraft]
      rfl

theorem answer_paddedDrafter (proposer : Proposer μ) (id : RequestId)
    (context output : Tokens) :
    (Request.paddedDrafter (some id) context output).answer proposer =
      (Request.batch [⟨id, context, output⟩] proposer.speculativeTokens).answer
        proposer := by
  have hlength : ∀ drafts, (proposer.paddedOutputs [⟨id, context, output⟩]
      proposer.speculativeTokens).1 = some drafts → drafts.length = 1 :=
    fun _ hdrafts => length_paddedOutputs hdrafts
  have hoffers := groupOffers_singleton ⟨id, context, output⟩ hlength
  exact Prod.ext hoffers.symm rfl

end Proposer

namespace Request

theorem related_answer {Related : Proposer μ → Proposer μ → Prop}
    (hrespected : Proposer.Respected Related) (request : Request) (proposer : Proposer μ) :
    Related proposer (request.answer proposer).2 := by
  cases request with
  | step id context output => exact hrespected.propose ..
  | single context output id => exact hrespected.propose proposer id context _
  | slots running => exact hrespected.draftBatch ..
  | slotDrafter id context output => exact hrespected.propose proposer id context output
  | batch groups sampleLength => exact hrespected.paddedOutputs ..
  | paddedDrafter id context output =>
      cases id with
      | none => exact hrespected.askFallback ..
      | some id =>
          rw [Proposer.answer_paddedDrafter]
          exact hrespected.paddedOutputs ..

theorem fits_answer_iff (request : Request) (proposer : Proposer μ) :
    proposer.Fits (request.answer proposer).1 ↔
      proposer.Suffices (request.unbudgeted proposer) := by
  cases request with
  | step id context output =>
      refine iff_of_true ?_ proposer.suffices_nil
      exact (Proposer.fits_singleton ..).2 (Proposer.length_propose_le ..)
  | single context output id =>
      refine iff_of_true ?_ proposer.suffices_nil
      exact (Proposer.fits_singleton ..).2 (Proposer.length_draftFor_le ..)
  | slots running =>
      refine iff_of_true ?_ proposer.suffices_nil
      exact Proposer.fits_of_zip fun _ _ hdraft => Proposer.length_draftBatch_le hdraft
  | slotDrafter id context output =>
      refine iff_of_true ?_ proposer.suffices_nil
      exact (Proposer.fits_singleton ..).2 (Proposer.length_propose_le ..)
  | batch groups sampleLength => exact Proposer.fits_paddedOutputs ..
  | paddedDrafter id context output =>
      cases id with
      | none => exact Proposer.fits_askFallback ..
      | some id =>
          rw [Proposer.answer_paddedDrafter]
          exact Proposer.fits_paddedOutputs ..

end Request

inductive Event where
  | asked (request : Request)
  | started (id : RequestId) (reference : Tokens)
  | finished (id : RequestId)
  | flipped (speculativeEdit ngramFallback : Option Bool)
  | fallbackAsked (context : Tokens) (limit : Nat)
  | referenceAsked (id : RequestId) (output : Tokens) (limit : Nat)

def Event.run : Event → Proposer μ → Proposer μ
  | asked request, proposer => (request.answer proposer).2
  | started id reference, proposer => (proposer.startRequest id reference).2
  | finished id, proposer => proposer.finishRequest id
  | flipped speculativeEdit ngramFallback, proposer =>
    { proposer with toggles := proposer.toggles.flip speculativeEdit ngramFallback }
  | fallbackAsked context limit, proposer => (proposer.askFallback context limit).2
  | referenceAsked id output limit, proposer => (proposer.referenceChunk id output limit).2

/-- The proposers that the settings lead to. Sessions and the fallback's memory are shared,
so others may change them at any time. -/
inductive Reachable (settings : Settings) (fallback : Option (Fallback μ)) :
    Proposer μ → Prop where
  | new {memory : μ} {proposer : Proposer μ}
      (hnew : Proposer.new settings fallback memory = .ok proposer) :
      Reachable settings fallback proposer
  | event {proposer : Proposer μ} (event : Event)
      (hreachable : Reachable settings fallback proposer) :
      Reachable settings fallback (event.run proposer)
  | outside {proposer : Proposer μ} (sessions : Registry) (memory : μ)
      (hreachable : Reachable settings fallback proposer) :
      Reachable settings fallback { proposer with sessions, memory }

def Proposer.initial (settings : Settings) (fallback : Option (Fallback μ)) (memory : μ) :
    Proposer μ where
  sessions := .ofSettings settings
  toggles := .ofSettings settings
  fallback := fallback
  memory := memory
  speculativeTokens := settings.speculativeTokens
  maxModelLength := settings.maxModelLength

theorem Proposer.new_of_validate {settings : Settings} (hvalid : settings.validate = .ok ())
    (fallback : Option (Fallback μ)) (memory : μ) :
    Proposer.new settings fallback memory = .ok (.initial settings fallback memory) := by
  rw [Proposer.new, Settings.resolved_of_validate hvalid]
  rfl

structure Serves (settings : Settings) (fallback : Option (Fallback μ))
    (proposer : Proposer μ) : Prop where
  fallback : proposer.fallback = fallback
  speculativeTokens : proposer.speculativeTokens = settings.speculativeTokens
  maxModelLength : proposer.maxModelLength = settings.maxModelLength

section Reachability

variable {settings : Settings} {fallback : Option (Fallback μ)} {proposer : Proposer μ}

theorem Serves.allows_iff (hserves : Serves settings fallback proposer) (context : Tokens)
    (count : Nat) :
    settings.Allows context count ↔ count ≤ proposer.budget context.length := by
  rw [Settings.Allows, Proposer.budget, Nat.le_min, hserves.speculativeTokens,
    hserves.maxModelLength]

theorem Serves.of_keeps {after : Proposer μ} (hserves : Serves settings fallback proposer)
    (hkeeps : proposer.Keeps after) : Serves settings fallback after :=
  ⟨hkeeps.fallback.trans hserves.fallback,
    hkeeps.speculativeTokens.trans hserves.speculativeTokens,
    hkeeps.maxModelLength.trans hserves.maxModelLength⟩

theorem eq_initial_of_new {memory : μ}
    (hnew : Proposer.new settings fallback memory = .ok proposer) :
    proposer = .initial settings fallback memory := by
  unfold Proposer.new Settings.resolved at hnew
  cases hvalid : settings.validate with
  | error complaint =>
      rw [hvalid] at hnew
      cases hnew
  | ok =>
      rw [hvalid, Backend.resolve_available] at hnew
      cases hnew
      rfl

theorem serves_new {memory : μ}
    (hnew : Proposer.new settings fallback memory = .ok proposer) :
    Serves settings fallback proposer := by
  rw [eq_initial_of_new hnew]
  exact ⟨rfl, rfl, rfl⟩

theorem Serves.run (event : Event) (hserves : Serves settings fallback proposer) :
    Serves settings fallback (event.run proposer) := by
  cases event with
  | asked request =>
      exact hserves.of_keeps (request.related_answer Proposer.respected_keeps proposer)
  | started id reference => exact ⟨hserves.1, hserves.2, hserves.3⟩
  | finished id => exact ⟨hserves.1, hserves.2, hserves.3⟩
  | flipped speculativeEdit ngramFallback => exact ⟨hserves.1, hserves.2, hserves.3⟩
  | fallbackAsked context limit =>
      exact hserves.of_keeps (Proposer.keeps_askFallback proposer context limit)
  | referenceAsked id output limit =>
      exact hserves.of_keeps
        (Proposer.onlySessions_referenceChunk proposer id output limit).keeps

theorem Reachable.serves (hreachable : Reachable settings fallback proposer) :
    Serves settings fallback proposer := by
  induction hreachable with
  | new hnew => exact serves_new hnew
  | event event _ ih => exact ih.run event
  | outside sessions memory _ ih => exact ⟨ih.1, ih.2, ih.3⟩

/-- Whatever happened before, the drafts of a request stay inside the model's context
exactly if the fallback's answers do to which the budget was not applied. -/
theorem Reachable.drafts_fit_iff (hreachable : Reachable settings fallback proposer)
    (request : Request) :
    (∀ offer ∈ (request.answer proposer).1,
        settings.Allows offer.context offer.draft.length) ↔
      ∀ question ∈ request.unbudgeted proposer,
        settings.Allows question.context (min question.limit question.answer.length) := by
  simp only [hreachable.serves.allows_iff]
  exact request.fits_answer_iff proposer

end Reachability

def stubborn (settings : Settings) : Proposer Unit where
  sessions := .ofSettings settings
  toggles := .ofSettings settings
  fallback := some (.fixed [7, 8, 9])
  memory := ()
  speculativeTokens := settings.speculativeTokens
  maxModelLength := settings.maxModelLength

theorem reachable_stubborn (settings : Settings) (hvalid : settings.validate = .ok ()) :
    Reachable settings (some (.fixed [7, 8, 9])) (stubborn settings) :=
  Reachable.new (Proposer.new_of_validate hvalid (some (.fixed [7, 8, 9])) ())

/-- At a sample length of one, an answer of three tokens fits where one more token does. -/
theorem drafts_fit_short_sample :
    Reachable { speculativeTokens := 4, maxModelLength := 6 } (some (.fixed [7, 8, 9]))
        (Event.run (.flipped (some false) none)
          (stubborn { speculativeTokens := 4, maxModelLength := 6 })) ∧
      ∀ offer ∈ ((Request.batch [⟨"a", [1, 2, 3, 4, 5], [4, 5]⟩] 1).answer
          (Event.run (.flipped (some false) none)
            (stubborn { speculativeTokens := 4, maxModelLength := 6 }))).1,
        Settings.Allows { speculativeTokens := 4, maxModelLength := 6 } offer.context
          offer.draft.length := by
  have hreachable := Reachable.event (.flipped (some false) none)
    (reachable_stubborn { speculativeTokens := 4, maxModelLength := 6 } rfl)
  refine ⟨hreachable, ?_⟩
  apply (hreachable.drafts_fit_iff (.batch [⟨"a", [1, 2, 3, 4, 5], [4, 5]⟩] 1)).2
  decide

/-- The context is full, and yet there are three draft tokens. -/
theorem full_context_gets_draft :
    Reachable { speculativeTokens := 4, maxModelLength := 4 } (some (.fixed [7, 8, 9]))
        (stubborn { speculativeTokens := 4, maxModelLength := 4 }) ∧
      ¬∀ offer ∈ ((Request.paddedDrafter none [1, 2, 3, 4] []).answer
          (stubborn { speculativeTokens := 4, maxModelLength := 4 })).1,
        Settings.Allows { speculativeTokens := 4, maxModelLength := 4 } offer.context
          offer.draft.length :=
  ⟨reachable_stubborn _ rfl, by decide⟩

end Draft

end Redraft
