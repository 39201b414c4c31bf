import Redraft.Proofs.Draft.Coupling

namespace Redraft.Draft

variable {μ : Type} {proposer : Proposer μ}

namespace Proposer

def offerFallback (proposer : Proposer μ) (ask : Tokens × Nat) : Offer × Proposer μ :=
  let (proposal, proposer) := proposer.askFallback ask.1 ask.2
  (⟨ask.1, proposal.tokens⟩, proposer)

def offerAll (proposer : Proposer μ) (asks : List (Tokens × Nat)) :
    List Offer × Proposer μ :=
  answerAll offerFallback proposer asks

def slotAsk (proposer : Proposer μ) (slot : BatchSlot) : Tokens × Nat :=
  (slot.context,
    if slot.sampled = 0 ∨ slot.supported = false then 0
    else proposer.budget slot.context.length)

end Proposer

def Request.asks : Request → Proposer μ → List (Tokens × Nat)
  | step _ context _, proposer => [(context, proposer.budget context.length)]
  | single context _ _, proposer => [(context, proposer.budget context.length)]
  | slots running, proposer => running.map proposer.slotAsk
  | slotDrafter _ context _, proposer => [(context, proposer.budget context.length)]
  | batch groups sampleLength, _ => groups.map fun group => (group.context, sampleLength)
  | paddedDrafter _ context _, proposer => [(context, proposer.speculativeTokens)]

namespace Proposer

theorem Keeps.slotAsk {before after : Proposer μ} (hkeeps : before.Keeps after) :
    after.slotAsk = before.slotAsk := by
  funext slot
  rw [Proposer.slotAsk, Proposer.slotAsk, hkeeps.budget]

theorem keeps_offerFallback (proposer : Proposer μ) (ask : Tokens × Nat) :
    proposer.Keeps (proposer.offerFallback ask).2 :=
  keeps_askFallback ..

theorem offerFallback_idle {limit : Nat}
    (hidle : limit = 0 ∨ proposer.toggles.ngramFallback = false ∨ proposer.fallback = none)
    (context : Tokens) :
    proposer.offerFallback (context, limit) = (⟨context, []⟩, proposer) := by
  unfold offerFallback askFallback
  rcases hidle with hnothing | hoff | hnone
  · simp [hnothing]
  · simp [hoff]
  · simp [hnone]

theorem offerAll_idle {asks : List (Tokens × Nat)}
    (hidle : ∀ ask ∈ asks, ask.2 = 0 ∨ proposer.toggles.ngramFallback = false ∨
      proposer.fallback = none) :
    proposer.offerAll asks = (asks.map fun ask => ⟨ask.1, []⟩, proposer) := by
  induction asks with
  | nil => rfl
  | cons ask asks ih =>
      obtain ⟨hfirst, hrest⟩ := List.forall_mem_cons.1 hidle
      have hlater := ih hrest
      unfold offerAll at hlater ⊢
      rw [answerAll_cons, offerFallback_idle hfirst, hlater]
      rfl

theorem answerAll_eq_offerAll {α β : Type} {answer : Proposer μ → α → β × Proposer μ}
    {offer : α → β → Offer} {ask : α → Tokens × Nat}
    (hstep : ∀ {before}, proposer.Keeps before → ∀ question,
      (offer question (answer before question).1, (answer before question).2) =
        before.offerFallback (ask question))
    (questions : List α) {before : Proposer μ} (hkeeps : proposer.Keeps before) :
    (List.zipWith offer questions (answerAll answer before questions).1,
        (answerAll answer before questions).2) =
      before.offerAll (questions.map ask) := by
  induction questions generalizing before with
  | nil => rfl
  | cons question questions ih =>
      have hfirst := hstep hkeeps question
      have hkept : proposer.Keeps (answer before question).2 := by
        rw [congrArg Prod.snd hfirst]
        exact hkeeps.trans (keeps_offerFallback ..)
      have hrest := ih hkept
      unfold offerAll at hrest ⊢
      rw [List.map_cons, answerAll_cons, answerAll_cons, ← hfirst, ← hrest]
      rfl

theorem propose_of_off (hoff : proposer.toggles.speculativeEdit = false)
    (id : Option RequestId) (context output : Tokens) :
    proposer.propose id context output =
      proposer.askFallback context (proposer.budget context.length) := by
  cases id with
  | none => rfl
  | some id => simp [propose, hoff]

theorem draftSlot_of_off (hoff : proposer.toggles.speculativeEdit = false)
    (slot : BatchSlot) :
    (⟨slot.context, (proposer.draftSlot slot).1⟩, (proposer.draftSlot slot).2) =
      proposer.offerFallback (proposer.slotAsk slot) := by
  unfold draftSlot slotAsk
  by_cases hskipped : slot.sampled = 0 ∨ slot.supported = false
  · have hpassed : slot.sampled = 0 ∨ slot.supported = false ∨
        proposer.maxModelLength ≤ slot.context.length := by
      rw [← or_assoc]
      exact Or.inl hskipped
    rw [if_pos hskipped, if_pos hpassed, offerFallback_idle (Or.inl rfl)]
  · rw [if_neg hskipped]
    by_cases hfull : proposer.maxModelLength ≤ slot.context.length
    · have hbudget : proposer.budget slot.context.length = 0 := by
        rw [budget, Nat.sub_eq_zero_of_le hfull, Nat.min_zero]
      rw [if_pos (Or.inr (Or.inr hfull)), hbudget, offerFallback_idle (Or.inl rfl)]
    · have hwanted : ¬(slot.sampled = 0 ∨ slot.supported = false ∨
          proposer.maxModelLength ≤ slot.context.length) := by
        rw [← or_assoc]
        exact not_or.2 ⟨hskipped, hfull⟩
      rw [if_neg hwanted]
      dsimp only
      rw [getD_draftFor, propose_of_off hoff]
      refine Prod.ext rfl ?_
      unfold draftFor
      rw [propose_of_off hoff]
      rfl

theorem offerAll_groups_idle {limit : Nat}
    (hidle : limit = 0 ∨ proposer.toggles.ngramFallback = false ∨ proposer.fallback = none)
    (groups : List SequenceGroup) :
    proposer.offerAll (groups.map fun group => (group.context, limit)) =
      (Request.groupOffers groups none, proposer) := by
  have hnone : Request.groupOffers groups none =
      groups.map fun group => ⟨group.context, []⟩ := by
    unfold Request.groupOffers
    induction groups with
    | nil => rfl
    | cons group groups ih => exact congrArg (List.cons _) ih
  rw [offerAll_idle (List.forall_mem_map.2 fun _ _ => hidle), hnone, List.map_map]
  rfl

theorem fallbackOutputs_eq_offerAll (proposer : Proposer μ) (groups : List SequenceGroup)
    (limit : Nat) :
    (Request.groupOffers groups (proposer.fallbackOutputs groups limit).1,
        (proposer.fallbackOutputs groups limit).2) =
      proposer.offerAll (groups.map fun group => (group.context, limit)) := by
  by_cases hidle : proposer.toggles.ngramFallback = false ∨ proposer.fallback.isNone
  · rw [fallbackOutputs, if_pos hidle,
      offerAll_groups_idle (Or.inr (hidle.imp_right Option.isNone_iff_eq_none.1))]
  · rw [fallbackOutputs, if_neg hidle]
    dsimp only
    rw [Request.groupOffers_ifAny (length_answerAll ..)]
    refine answerAll_eq_offerAll (fun {before} _ group => ?_) groups (Keeps.refl proposer)
    rw [proposedOf_fallbackOutput]
    rfl

end Proposer

/-- With speculative edit off a request is nothing but its questions to the fallback. -/
theorem Request.answer_of_off (hoff : proposer.toggles.speculativeEdit = false)
    (request : Request) :
    request.answer proposer = proposer.offerAll (request.asks proposer) := by
  have hsingle (id : Option RequestId) (context output : Tokens) :
      (Request.step id context output).answer proposer =
        proposer.offerAll [(context, proposer.budget context.length)] := by
    unfold Request.answer
    dsimp only
    rw [Proposer.propose_of_off hoff]
    rfl
  have hbatch (groups : List SequenceGroup) (sampleLength : Nat) :
      (Request.batch groups sampleLength).answer proposer =
        proposer.offerAll (groups.map fun group => (group.context, sampleLength)) := by
    unfold Request.answer Proposer.paddedOutputs
    dsimp only
    by_cases hidle : sampleLength = 0 ∨ groups.isEmpty
    · rw [if_pos hidle]
      rcases hidle with hnothing | hempty
      · exact (Proposer.offerAll_groups_idle (Or.inl hnothing) groups).symm
      · rw [List.isEmpty_iff.1 hempty]
        rfl
    · rw [if_neg hidle, if_pos hoff]
      exact proposer.fallbackOutputs_eq_offerAll groups sampleLength
  cases request with
  | step id context output => exact hsingle id context output
  | single context output id =>
      refine Eq.trans ?_ (hsingle id context (output.getD []))
      unfold Request.answer
      dsimp only
      rw [Proposer.getD_draftFor]
      rfl
  | slots running =>
      refine Proposer.answerAll_eq_offerAll (fun {before} hkeeps slot => ?_) running
        (Proposer.Keeps.refl proposer)
      rw [← hkeeps.slotAsk]
      exact Proposer.draftSlot_of_off (hkeeps.toggles ▸ hoff) slot
  | slotDrafter id context output => exact hsingle id context output
  | batch groups sampleLength => exact hbatch groups sampleLength
  | paddedDrafter id context output =>
      cases id with
      | none => rfl
      | some id =>
          rw [Proposer.answer_paddedDrafter]
          exact hbatch [⟨id, context, output⟩] proposer.speculativeTokens

section Served

theorem Proposer.offerAll_sessions (proposer : Proposer μ) (sessions : Registry)
    (asks : List (Tokens × Nat)) :
    Proposer.offerAll { proposer with sessions } asks =
      ((proposer.offerAll asks).1, { (proposer.offerAll asks).2 with sessions }) := by
  have hask (proposer : Proposer μ) (ask : Tokens × Nat) :
      Proposer.offerFallback { proposer with sessions } ask =
        ((proposer.offerFallback ask).1,
          { (proposer.offerFallback ask).2 with sessions }) := by
    unfold Proposer.offerFallback
    rw [askFallback_sessions]
  unfold Proposer.offerAll
  induction asks generalizing proposer with
  | nil => rfl
  | cons ask asks ih => rw [answerAll_cons, answerAll_cons, hask, ih]

theorem Request.answer_sessions (hoff : proposer.toggles.speculativeEdit = false)
    (request : Request) (sessions : Registry) :
    request.answer { proposer with sessions } =
      ((request.answer proposer).1, { (request.answer proposer).2 with sessions }) := by
  have hasks : request.asks { proposer with sessions } = request.asks proposer := by
    cases request with
    | _ => rfl
  have hother : Proposer.toggles { proposer with sessions } = proposer.toggles := rfl
  rw [answer_of_off (hother ▸ hoff), answer_of_off hoff, hasks]
  exact proposer.offerAll_sessions sessions (request.asks proposer)

theorem Request.sessions_of_off (hoff : proposer.toggles.speculativeEdit = false)
    (request : Request) : (request.answer proposer).2.sessions = proposer.sessions :=
  congrArg (·.2.sessions) (request.answer_sessions hoff proposer.sessions)

/-- The draft is empty, or as much of what the fallback answered as was wanted. -/
def Offer.From (questions : List Question) (offer : Offer) : Prop :=
  offer.draft = [] ∨
    ∃ question ∈ questions, question.context = offer.context ∧
      offer.draft = question.answer.take question.limit

theorem Offer.From.mono {few many : List Question} {offer : Offer}
    (hfrom : offer.From few) (hmore : few ⊆ many) : offer.From many :=
  hfrom.imp_right fun ⟨question, hquestion, hdraft⟩ => ⟨question, hmore hquestion, hdraft⟩

theorem Proposer.offerFallback_noting (proposer : Proposer μ) (notes : List Question)
    (ask : Tokens × Nat) :
    ∃ heard, (proposer.noting notes).offerFallback ask =
        ((proposer.offerFallback ask).1,
          (proposer.offerFallback ask).2.noting (notes ++ heard)) ∧
      (proposer.offerFallback ask).1.From heard := by
  refine ⟨proposer.questions [ask.1] ask.2, ?_, ?_⟩
  · unfold offerFallback
    rw [askFallback_noting]
  · by_cases hasked : ask.2 = 0 ∨ proposer.toggles.ngramFallback = false
    · have hidle := hasked.imp_right (Or.inl (b := proposer.fallback = none))
      exact Or.inl (congrArg (·.1.draft) (offerFallback_idle hidle ask.1))
    · cases hfallback : proposer.fallback with
      | none =>
          have hidle : ask.2 = 0 ∨ proposer.toggles.ngramFallback = false ∨
              proposer.fallback = none := Or.inr (Or.inr hfallback)
          exact Or.inl (congrArg (·.1.draft) (offerFallback_idle hidle ask.1))
      | some fallback =>
          rw [questions, if_neg hasked, hfallback]
          exact Or.inr ⟨_, List.mem_singleton_self _, rfl,
            askFallback_tokens hfallback hasked ask.1⟩

theorem Proposer.offerAll_noting (proposer : Proposer μ) (notes : List Question)
    (asks : List (Tokens × Nat)) :
    ∃ heard, (proposer.noting notes).offerAll asks =
        ((proposer.offerAll asks).1, (proposer.offerAll asks).2.noting (notes ++ heard)) ∧
      ∀ offer ∈ (proposer.offerAll asks).1, offer.From heard := by
  unfold offerAll
  induction asks generalizing proposer notes with
  | nil =>
      refine ⟨[], ?_, fun _ hoffer => absurd hoffer List.not_mem_nil⟩
      rw [List.append_nil]
      rfl
  | cons ask asks ih =>
      obtain ⟨first, hanswer, hfrom⟩ := proposer.offerFallback_noting notes ask
      obtain ⟨rest, hanswers, hall⟩ :=
        ih (proposer.offerFallback ask).2 (notes ++ first)
      refine ⟨first ++ rest, ?_, ?_⟩
      · rw [answerAll_cons, answerAll_cons, hanswer, hanswers, List.append_assoc]
      · rw [answerAll_cons]
        exact List.forall_mem_cons.2 ⟨hfrom.mono (List.subset_append_left first rest),
          fun offer hoffer => (hall offer hoffer).mono (List.subset_append_right first rest)⟩

theorem Request.offers_of_off (hoff : proposer.toggles.speculativeEdit = false)
    (request : Request) :
    ∀ offer ∈ (request.answer proposer).1, offer.From (request.calls proposer) := by
  obtain ⟨heard, hanswers, hall⟩ := proposer.offerAll_noting [] (request.asks proposer)
  have hasks : request.asks (proposer.noting []) = request.asks proposer := by
    cases request with
    | _ => rfl
  have hwatched : (proposer.noting []).toggles.speculativeEdit = false := hoff
  have hcalls : request.calls proposer = heard := by
    rw [calls, answer_of_off hwatched, hasks, hanswers]
    rfl
  rw [hcalls, answer_of_off hoff]
  exact hall

def Proposer.Mutes (before after : Proposer μ) : Prop :=
  after.toggles = before.toggles ∧
    (before.toggles.ngramFallback = false → after.memory = before.memory)

theorem Proposer.respected_mutes : Respected (μ := μ) Mutes where
  refl _ := ⟨rfl, fun _ => rfl⟩
  trans := fun ⟨hfirst, hquiet⟩ ⟨hsecond, hstill⟩ =>
    ⟨hsecond.trans hfirst, fun hoff => (hstill (hfirst ▸ hoff)).trans (hquiet hoff)⟩
  askFallback proposer context limit := by
    refine ⟨(keeps_askFallback proposer context limit).toggles, fun hoff => ?_⟩
    rw [askFallback, if_pos (Or.inr hoff)]
  referenceChunk proposer id output limit := by
    obtain ⟨sessions, honly⟩ := onlySessions_referenceChunk proposer id output limit
    rw [honly]
    exact ⟨rfl, fun _ => rfl⟩

theorem Request.calls_of_off (hoff : proposer.toggles.ngramFallback = false)
    (request : Request) : request.calls proposer = [] :=
  congrArg Prod.snd
    ((request.related_answer Proposer.respected_mutes (proposer.noting [])).2 hoff)

theorem Request.answer_of_both_off (hedit : proposer.toggles.speculativeEdit = false)
    (hngram : proposer.toggles.ngramFallback = false) (request : Request) :
    (∀ offer ∈ (request.answer proposer).1, offer.draft = []) ∧
      (request.answer proposer).2 = proposer := by
  rw [answer_of_off hedit, Proposer.offerAll_idle fun _ _ => Or.inr (Or.inl hngram)]
  exact ⟨List.forall_mem_map.2 fun _ _ => rfl, rfl⟩

end Served

section Runs

def Proposer.after (proposer : Proposer μ) (events : List Event) : Proposer μ :=
  events.foldl (fun proposer event => event.run proposer) proposer

def Proposer.passes (proposer : Proposer μ) : Event → Bool
  | .asked _ => !proposer.toggles.speculativeEdit
  | _ => false

/-- The events without the requests that came while speculative edit was off. -/
def Proposer.heard (proposer : Proposer μ) : List Event → List Event
  | [] => []
  | event :: events =>
    let rest := (event.run proposer).heard events
    if proposer.passes event then rest else event :: rest

/-- What was asked before makes no difference to the answers. -/
def Fallback.Forgetful (fallback : Fallback μ) : Prop :=
  ∀ memory other context limit,
    (fallback.propose memory context limit).1 = (fallback.propose other context limit).1

def Proposer.Recalls (fallback : Option (Fallback μ)) (left right : Proposer μ) : Prop :=
  left.fallback = fallback ∧ ∃ memory, right = { left with memory }

variable {fallback : Option (Fallback μ)} {left right : Proposer μ}

theorem Proposer.Recalls.refl (proposer : Proposer μ) :
    Recalls proposer.fallback proposer proposer :=
  ⟨rfl, proposer.memory, rfl⟩

theorem Proposer.askFallback_forgetful
    (hforgetful : ∀ source, proposer.fallback = some source → source.Forgetful) (memory : μ)
    (context : Tokens) (limit : Nat) :
    (askFallback { proposer with memory } context limit).1 =
      (proposer.askFallback context limit).1 := by
  unfold askFallback
  by_cases hasked : limit = 0 ∨ proposer.toggles.ngramFallback = false
  · rw [if_pos hasked, if_pos hasked]
  · rw [if_neg hasked, if_neg hasked]
    cases hfallback : proposer.fallback with
    | none => rfl
    | some source =>
        have hsame := hforgetful source hfallback memory proposer.memory context limit
        cases hdraft : (source.propose proposer.memory context limit).1.take limit with
        | nil => simp only [hsame, hdraft]
        | cons token draft => simp only [hsame, hdraft]

theorem Proposer.Recalls.referenceChunk (hpair : Recalls fallback left right)
    (id : RequestId) (output : Tokens) (limit : Nat) :
    Alike True (Recalls fallback) (left.referenceChunk id output limit)
      (right.referenceChunk id output limit) := by
  obtain ⟨rfl, memory, rfl⟩ := hpair
  obtain ⟨sessions, honly⟩ := onlySessions_referenceChunk left id output limit
  rw [referenceChunk_of_sessions left { left with memory } rfl]
  refine ⟨fun _ => rfl, ?_, memory, ?_⟩
  · rw [honly]
  · rw [honly]

theorem Proposer.coupled_recalls (fallback : Option (Fallback μ)) :
    Coupled (∀ source, fallback = some source → source.Forgetful) (Recalls fallback) where
  toggles := by
    rintro left _ ⟨_, memory, rfl⟩
    rfl
  speculativeTokens := by
    rintro left _ ⟨_, memory, rfl⟩
    rfl
  maxModelLength := by
    rintro left _ ⟨_, memory, rfl⟩
    rfl
  installed := by
    rintro left _ ⟨_, memory, rfl⟩ -
    rfl
  contains := by
    rintro left _ ⟨_, memory, rfl⟩ - id
    rfl
  askFallback := by
    rintro left _ ⟨rfl, memory, rfl⟩ context limit
    obtain ⟨first, hleft⟩ := askFallback_memory left context limit
    obtain ⟨second, hright⟩ := askFallback_memory { left with memory } context limit
    refine ⟨fun hforgetful => (askFallback_forgetful hforgetful memory context limit).symm, ?_⟩
    rw [hleft, hright]
    exact ⟨rfl, second, rfl⟩
  referenceChunk hpair _ id _ output limit := hpair.referenceChunk id output limit

theorem Proposer.Recalls.run (hpair : Recalls fallback left right) (event : Event) :
    Recalls fallback (event.run left) (event.run right) := by
  have hcoupled := Proposer.coupled_recalls fallback
  cases event with
  | asked request => exact (hcoupled.answer hpair request).2
  | fallbackAsked context limit => exact (hcoupled.askFallback hpair context limit).2
  | started id reference =>
      obtain ⟨hfallback, memory, rfl⟩ := hpair
      exact ⟨hfallback, memory, rfl⟩
  | finished id =>
      obtain ⟨hfallback, memory, rfl⟩ := hpair
      exact ⟨hfallback, memory, rfl⟩
  | flipped speculativeEdit ngramFallback =>
      obtain ⟨hfallback, memory, rfl⟩ := hpair
      exact ⟨hfallback, memory, rfl⟩
  | referenceAsked id output limit => exact (hpair.referenceChunk id output limit).2

theorem Proposer.Keeps.with_memory {before after : Proposer μ} (hkeeps : before.Keeps after)
    (hsessions : after.sessions = before.sessions) (memory : μ) :
    { before with memory } = { after with memory } := by
  rw [hkeeps.toggles, hkeeps.fallback, hkeeps.speculativeTokens, hkeeps.maxModelLength,
    hsessions]

theorem Proposer.Recalls.pass (hpair : Recalls fallback left right) {event : Event}
    (hpasses : left.passes event = true) : Recalls fallback (event.run left) right := by
  cases event with
  | asked request =>
      have hoff : left.toggles.speculativeEdit = false := by
        simpa [passes] using hpasses
      obtain ⟨rfl, memory, rfl⟩ := hpair
      have hkeeps := request.related_answer respected_keeps left
      exact ⟨hkeeps.fallback, memory,
        hkeeps.with_memory (request.sessions_of_off hoff) memory⟩
  | _ => cases hpasses

theorem Proposer.Recalls.after (hpair : Recalls fallback left right) (events : List Event) :
    Recalls fallback (left.after events) (right.after (left.heard events)) := by
  -- A request that is passed over moves the left proposer alone, every other event both.
  induction events generalizing left right with
  | nil => exact hpair
  | cons event events ih =>
      rw [heard]
      split
      · rename_i hpasses
        exact ih (hpair.pass hpasses)
      · exact ih (hpair.run event)

/-- At any time, a request that comes while speculative edit is off takes nothing from the
sessions and does nothing to them, and one that comes while the n-gram switch is off asks the
fallback nothing. Had the former not come at all, only the fallback would remember less. -/
theorem switches_hold (proposer : Proposer μ) (events : List Event) (request : Request) :
    let before := proposer.after events
    (before.toggles.speculativeEdit = false →
      (∀ sessions, request.answer { before with sessions } =
        ((request.answer before).1, { (request.answer before).2 with sessions })) ∧
      (request.answer before).2.sessions = before.sessions ∧
      ∀ offer ∈ (request.answer before).1, offer.From (request.calls before)) ∧
    (before.toggles.ngramFallback = false → request.calls before = []) ∧
    (before.toggles.speculativeEdit = false → before.toggles.ngramFallback = false →
      (∀ offer ∈ (request.answer before).1, offer.draft = []) ∧
      (request.answer before).2 = before) ∧
    (∃ memory, proposer.after (proposer.heard events) = { before with memory }) ∧
    ((∀ source, proposer.fallback = some source → source.Forgetful) →
      (request.answer (proposer.after (proposer.heard events))).1 =
        (request.answer before).1) := by
  have hrecalls := (Proposer.Recalls.refl proposer).after events
  refine ⟨fun hoff => ⟨request.answer_sessions hoff, request.sessions_of_off hoff,
    request.offers_of_off hoff⟩, request.calls_of_off, ?_, hrecalls.2, fun hforgetful => ?_⟩
  · intro hedit hngram
    exact request.answer_of_both_off hedit hngram
  · have halike := (Proposer.coupled_recalls proposer.fallback).answer hrecalls request
    exact (halike.1 hforgetful).symm

/-- Both switches are off in the end, and a batch gets no drafts. -/
theorem switches_hold_both_off :
    let before := (stubborn { speculativeTokens := 4, maxModelLength := 6 }).after
      [.flipped (some false) none, .asked (.paddedDrafter (some "a") [1, 2] [2]),
        .flipped none (some false)]
    before.toggles = ⟨false, false⟩ ∧
      (∀ offer ∈ ((Request.batch [⟨"a", [1, 2], [2]⟩] 3).answer before).1,
        offer.draft = []) ∧
      ((Request.batch [⟨"a", [1, 2], [2]⟩] 3).answer before).2 = before := by
  refine ⟨by decide, ?_⟩
  exact (switches_hold (stubborn { speculativeTokens := 4, maxModelLength := 6 })
    [.flipped (some false) none, .asked (.paddedDrafter (some "a") [1, 2] [2]),
      .flipped none (some false)] (.batch [⟨"a", [1, 2], [2]⟩] 3)).2.2.1 rfl rfl

end Runs

end Redraft.Draft
