import Mathlib.Order.Bounds.Basic
import Redraft.Draft.Lookup
import Redraft.Proofs.Align.Copies

/-!
Prompt lookup finds what a direct search finds. Read backwards, the end of the context is a
beginning, and an earlier occurrence of it is a place further on where that beginning stands
again. The table holds, for every beginning that is tried, the longest shorter one at its
end; with that, each step finds the longest beginning that ends where it has read to.
-/

namespace Redraft.Draft

/-- The first `length` tokens stand right in front of `stop` as well, behind their first
place. -/
structure Recurs (text : Tokens) (stop length : Nat) : Prop where
  shorter : length < stop
  suffix : text.take length <:+ text.take stop

section Recurs

variable {text : Tokens} {stop longer length : Nat} {token : Token}

theorem recurs_zero (hstop : 0 < stop) : Recurs text stop 0 :=
  ⟨hstop, List.nil_suffix⟩

theorem Recurs.trans (hlonger : Recurs text stop longer) (h : Recurs text longer length) :
    Recurs text stop length :=
  ⟨h.shorter.trans hlonger.shorter, h.suffix.trans hlonger.suffix⟩

theorem Recurs.inside (h : Recurs text stop length) (hlonger : Recurs text stop longer)
    (hlt : length < longer) : Recurs text longer length := by
  refine ⟨hlt, List.suffix_of_suffix_length_le h.suffix hlonger.suffix ?_⟩
  rw [List.length_take, List.length_take]
  omega

theorem recurs_succ_iff (hstop : text[stop]? = some token) :
    Recurs text (stop + 1) (length + 1) ↔
      Recurs text stop length ∧ text[length]? = some token := by
  obtain ⟨hin, rfl⟩ := List.getElem?_eq_some_iff.1 hstop
  constructor
  · intro h
    have hlt := Nat.lt_of_succ_lt_succ h.shorter
    have hlength : length < text.length := hlt.trans hin
    have hsuffix := h.suffix
    rw [List.take_succ_eq_append_getElem hin, List.take_succ_eq_append_getElem hlength,
      ← List.reverse_prefix, List.reverse_append, List.reverse_append] at hsuffix
    obtain ⟨heq, hrest⟩ := List.cons_prefix_cons.1 hsuffix
    exact ⟨⟨hlt, List.reverse_prefix.1 hrest⟩, by rw [List.getElem?_eq_getElem hlength, heq]⟩
  · intro hgiven
    obtain ⟨h, hget⟩ := hgiven
    obtain ⟨hlength, heq⟩ := List.getElem?_eq_some_iff.1 hget
    refine ⟨Nat.succ_lt_succ h.shorter, ?_⟩
    rw [List.take_succ_eq_append_getElem hin, List.take_succ_eq_append_getElem hlength, heq,
      ← List.reverse_prefix, List.reverse_append, List.reverse_append]
    exact List.cons_prefix_cons.2 ⟨rfl, List.reverse_prefix.2 h.suffix⟩

end Recurs

namespace Lookup

/-- The table of the pass holds the longest recurring beginning of each beginning. -/
def Tabulates (text : Tokens) (failures : Array Nat) : Prop :=
  ∀ k shorter, failures[k]? = some shorter → IsGreatest {n | Recurs text (k + 1) n} shorter

section FallBack

variable {text : Tokens} {failures : Array Nat} {limit i matched : Nat} {token : Token}

/-- If the longest candidate does not go on with the next token, a shorter one has to. -/
theorem lt_of_mismatch (hget : text[i]? = some token) (hmismatch : text[matched]? ≠ some token)
    (hupper : ∀ n ≤ limit, Recurs text (i + 1) n → n ≤ matched + 1) {n : Nat}
    (hn : n + 1 ≤ limit) (h : Recurs text (i + 1) (n + 1)) : n < matched ∧ Recurs text i n := by
  obtain ⟨hrecurs, hgoesOn⟩ := (recurs_succ_iff hget).1 h
  have hle := hupper (n + 1) hn h
  have hne : n ≠ matched := by
    rintro rfl
    exact hmismatch hgoesOn
  exact ⟨by omega, hrecurs⟩

/-- Falling back stays inside the text and the table, and arrives at the longest beginning,
up to the limit, that ends behind the next token. -/
theorem fallBack_greatest (htable : Tabulates text failures)
    (hsize : failures.size = min i limit) (hget : text[i]? = some token)
    (hlimit : matched < limit) (hmatched : Recurs text i matched)
    (hupper : ∀ n ≤ limit, Recurs text (i + 1) n → n ≤ matched + 1) :
    fallBack? text.toArray failures token matched =
        some (fallBack text.toArray failures token matched) ∧
      IsGreatest {n | n ≤ limit ∧ Recurs text (i + 1) n}
        ((fallBack text.toArray failures token matched).elim 0 (· + 1)) := by
  -- The induction is on the candidate: by `hupper` all longer ones are ruled out.
  induction matched using Nat.strong_induction_on with
  | _ matched ih =>
      have hinside := hmatched.shorter.trans (List.getElem?_eq_some_iff.1 hget).1
      obtain ⟨next, hnext⟩ : ∃ next, text.toArray[matched]? = some next :=
        ⟨_, List.getElem?_toArray.trans (List.getElem?_eq_getElem hinside)⟩
      rw [fallBack?, fallBack, hnext]
      rw [List.getElem?_toArray] at hnext
      dsimp only
      by_cases hgoesOn : next = token
      · subst hgoesOn
        rw [if_pos rfl, if_pos rfl]
        exact ⟨rfl, ⟨hlimit, (recurs_succ_iff hget).2 ⟨hmatched, hnext⟩⟩,
          fun n hn => hupper n hn.1 hn.2⟩
      · have hmismatch : text[matched]? ≠ some token := by
          rw [hnext]
          exact fun heq => hgoesOn (Option.some.inj heq)
        have hless {n : Nat} := lt_of_mismatch (n := n) hget hmismatch hupper
        rw [if_neg hgoesOn, if_neg (fun heq => hgoesOn (Option.some.inj heq))]
        cases matched with
        | zero =>
            rw [if_pos rfl, dif_neg (fun h => absurd h.1 (Nat.lt_irrefl 0))]
            refine ⟨rfl, ⟨Nat.zero_le _, recurs_zero (Nat.succ_pos i)⟩, ?_⟩
            intro n hn
            cases n with
            | zero => exact Nat.le_refl 0
            | succ n => exact absurd (hless hn.1 hn.2).1 (Nat.not_lt_zero n)
        | succ k =>
            -- The next candidate is the longest that ends where this one does, so none is
            -- left out in between.
            have hk : k < failures.size := by
              have hstop := hmatched.shorter
              omega
            have hentry := Array.getElem?_eq_getElem hk
            have hgreatest := htable k _ hentry
            have hshorter := hgreatest.1.shorter
            have hgetD : failures.getD k 0 = failures[k] := by
              rw [Array.getD_eq_getD_getElem?, hentry, Option.getD_some]
            rw [if_neg (Nat.succ_ne_zero k), Nat.add_sub_cancel, hentry, hgetD,
              dif_pos ⟨Nat.succ_pos k, hshorter⟩]
            dsimp only
            rw [if_pos hshorter]
            refine ih _ hshorter (hshorter.trans hlimit) (hmatched.trans hgreatest.1) ?_
            intro n hn hrecurs
            cases n with
            | zero => exact Nat.zero_le _
            | succ n =>
                obtain ⟨hlt, hbefore⟩ := hless hn hrecurs
                exact Nat.succ_le_succ (hgreatest.2 (hbefore.inside hmatched hlt))

end FallBack

/-- What the pass knows when it has read the tokens in front of `i`. -/
structure Scan.Covers (text : Tokens) (limit i : Nat) (scan : Scan) : Prop where
  size_eq : scan.failures.size = min i limit
  table : Tabulates text scan.failures
  matched : IsGreatest {n | n < limit ∧ Recurs text i n} scan.matched
  best : IsGreatest {n | n ≤ limit ∧ ∃ stop ≤ i, Recurs text stop n} scan.bestLength
  bestEnd : 0 < scan.bestLength →
    IsGreatest {j | j < i ∧ Recurs text (j + 1) scan.bestLength} scan.bestEnd

section Covers

variable {text : Tokens} {limit i longest : Nat} {scan : Scan}

theorem Scan.covers_start (text : Tokens) (hlimit : 0 < limit) :
    Scan.Covers text limit 1 {} where
  size_eq := by
    change 1 = min 1 limit
    omega
  table := by
    intro k shorter hentry
    have hk := (Array.getElem?_eq_some_iff.1 hentry).1
    obtain rfl : k = 0 := Nat.lt_one_iff.1 hk
    obtain rfl : 0 = shorter := Option.some.inj hentry
    exact ⟨recurs_zero Nat.one_pos, fun n hn => Nat.le_of_lt_succ hn.shorter⟩
  matched := ⟨⟨hlimit, recurs_zero Nat.one_pos⟩, fun n hn => Nat.le_of_lt_succ hn.2.shorter⟩
  best := by
    refine ⟨⟨Nat.zero_le _, 1, Nat.le_refl 1, recurs_zero Nat.one_pos⟩, ?_⟩
    rintro n ⟨-, stop, hstop, hrecurs⟩
    exact Nat.le_of_lt_succ (hrecurs.shorter.trans_le hstop)
  bestEnd hpos := absurd hpos (Nat.lt_irrefl 0)

def Scan.noted (scan : Scan) (limit i longest : Nat) : Array Nat :=
  if i < limit then scan.failures.push longest else scan.failures

section Longest

variable (hcovers : scan.Covers text limit i)
  (hlongest : IsGreatest {n | n ≤ limit ∧ Recurs text (i + 1) n} longest)

include hcovers

theorem Scan.Covers.size_noted : (scan.noted limit i longest).size = min (i + 1) limit := by
  have hsize := hcovers.size_eq
  rw [noted]
  split
  · rw [Array.size_push]
    omega
  · omega

include hlongest

theorem Scan.Covers.table_noted : Tabulates text (scan.noted limit i longest) := by
  have hsize := hcovers.size_eq
  rw [noted]
  split
  · rename_i hgrows
    intro k shorter hentry
    rw [Array.getElem?_push] at hentry
    split at hentry
    · rename_i hk
      obtain rfl : k = i := by omega
      obtain rfl : longest = shorter := Option.some.inj hentry
      refine ⟨hlongest.1.2, fun n hn => hlongest.2 ⟨?_, hn⟩⟩
      exact (Nat.le_of_lt_succ hn.shorter).trans (Nat.le_of_lt hgrows)
    · exact hcovers.table k shorter hentry
  · exact hcovers.table

theorem Scan.Covers.matched_noted (hlimit : 0 < limit) :
    ∃ matched, (if longest = limit then (scan.noted limit i longest)[limit - 1]?
        else some longest) = some matched ∧
      IsGreatest {n | n < limit ∧ Recurs text (i + 1) n} matched := by
  obtain ⟨⟨hle, hrecurs⟩, hmax⟩ := hlongest
  by_cases hfull : longest = limit
  · subst hfull
    have hsize : (scan.noted longest i longest).size = min (i + 1) longest :=
      hcovers.size_noted
    have hin : longest - 1 < (scan.noted longest i longest).size := by
      have hshorter := hrecurs.shorter
      omega
    have hentry := Array.getElem?_eq_getElem hin
    have hgreatest := hcovers.table_noted ⟨⟨hle, hrecurs⟩, hmax⟩ _ _ hentry
    rw [Nat.sub_add_cancel hlimit] at hgreatest
    rw [if_pos rfl, hentry]
    refine ⟨_, rfl, ⟨hgreatest.1.shorter, hrecurs.trans hgreatest.1⟩, ?_⟩
    exact fun n hn => hgreatest.2 (hn.2.inside hrecurs hn.1)
  · rw [if_neg hfull]
    exact ⟨longest, rfl, ⟨Nat.lt_of_le_of_ne hle hfull, hrecurs⟩,
      fun n hn => hmax ⟨Nat.le_of_lt hn.1, hn.2⟩⟩

theorem Scan.Covers.best_step :
    IsGreatest {n | n ≤ limit ∧ ∃ stop ≤ i + 1, Recurs text stop n}
      (max scan.bestLength longest) := by
  obtain ⟨⟨hle, stop, hstop, hrecurs⟩, hbest⟩ := hcovers.best
  constructor
  · rcases Nat.le_total scan.bestLength longest with hle' | hle'
    · rw [Nat.max_eq_right hle']
      exact ⟨hlongest.1.1, i + 1, Nat.le_refl _, hlongest.1.2⟩
    · rw [Nat.max_eq_left hle']
      exact ⟨hle, stop, Nat.le_succ_of_le hstop, hrecurs⟩
  · rintro n ⟨hn, stop, hstop, hrecurs⟩
    rcases Nat.lt_or_eq_of_le hstop with hbefore | rfl
    · exact (hbest ⟨hn, stop, Nat.le_of_lt_succ hbefore, hrecurs⟩).trans (Nat.le_max_left _ _)
    · exact (hlongest.2 ⟨hn, hrecurs⟩).trans (Nat.le_max_right _ _)

theorem Scan.Covers.bestEnd_step {last : Nat}
    (hnew : scan.bestLength ≤ longest → 0 < longest → last = i)
    (hold : longest < scan.bestLength → last = scan.bestEnd)
    (hpos : 0 < max scan.bestLength longest) :
    IsGreatest {j | j < i + 1 ∧ Recurs text (j + 1) (max scan.bestLength longest)} last := by
  rcases Nat.lt_or_ge longest scan.bestLength with hshorter | hreaches
  · obtain ⟨⟨hlast, hrecurs⟩, hmax⟩ := hcovers.bestEnd (Nat.zero_lt_of_lt hshorter)
    rw [Nat.max_eq_left (Nat.le_of_lt hshorter), hold hshorter]
    refine ⟨⟨Nat.lt_succ_of_lt hlast, hrecurs⟩, ?_⟩
    rintro j ⟨hj, hthere⟩
    rcases Nat.lt_or_eq_of_le (Nat.le_of_lt_succ hj) with hbefore | rfl
    · exact hmax ⟨hbefore, hthere⟩
    · have hle := hlongest.2 ⟨hcovers.best.1.1, hthere⟩
      omega
  · rw [Nat.max_eq_right hreaches] at hpos ⊢
    rw [hnew hreaches hpos]
    exact ⟨⟨Nat.lt_succ_self i, hlongest.1.2⟩, fun j hj => Nat.le_of_lt_succ hj.1⟩

theorem Scan.Covers.next {next : Scan} (hfailures : next.failures = scan.noted limit i longest)
    (hmatched : IsGreatest {n | n < limit ∧ Recurs text (i + 1) n} next.matched)
    (hbest : next.bestLength = max scan.bestLength longest)
    (hnew : scan.bestLength ≤ longest → 0 < longest → next.bestEnd = i)
    (hold : longest < scan.bestLength → next.bestEnd = scan.bestEnd) :
    next.Covers text limit (i + 1) where
  size_eq := hfailures ▸ hcovers.size_noted
  table := hfailures ▸ hcovers.table_noted hlongest
  matched := hmatched
  best := hbest ▸ hcovers.best_step hlongest
  bestEnd := hbest ▸ hcovers.bestEnd_step hlongest hnew hold

end Longest

theorem Scan.Covers.step (hcovers : scan.Covers text limit i) (hlimit : 0 < limit)
    {token : Token} (hget : text[i]? = some token) :
    scan.step? text.toArray limit i = some (scan.step text.toArray limit i token) ∧
      (scan.step text.toArray limit i token).Covers text limit (i + 1) := by
  obtain ⟨⟨hlt, hmatched⟩, hmax⟩ := hcovers.matched
  have hupper : ∀ n ≤ limit, Recurs text (i + 1) n → n ≤ scan.matched + 1 := by
    intro n hn hrecurs
    cases n with
    | zero => exact Nat.zero_le _
    | succ n => exact Nat.succ_le_succ (hmax ⟨hn, ((recurs_succ_iff hget).1 hrecurs).1⟩)
  obtain ⟨hchecked, hlongest⟩ :=
    fallBack_greatest hcovers.table hcovers.size_eq hget hlt hmatched hupper
  rw [Scan.step?, Scan.step, List.getElem?_toArray, hget]
  simp only [Option.bind_eq_bind, Option.bind_some, hchecked]
  generalize fallBack text.toArray scan.failures token scan.matched = fallen at hlongest
  obtain ⟨matched, hnext, hgreatest⟩ := hcovers.matched_noted hlongest hlimit
  cases fallen with
  | none =>
      rw [Option.elim_none, if_neg (Nat.ne_of_lt hlimit)] at hnext
      obtain rfl := Option.some.inj hnext
      exact ⟨rfl, hcovers.next hlongest rfl hgreatest (Nat.max_zero _).symm
        (fun _ hpos => absurd hpos (Nat.lt_irrefl 0)) fun _ => rfl⟩
  | some before =>
      have hmatched : matched = if before + 1 = limit then
          (scan.noted limit i (before + 1)).getD (limit - 1) 0 else before + 1 := by
        rw [Option.elim_some] at hnext
        split at hnext
        · rw [if_pos ‹_›, Array.getD_eq_getD_getElem?, hnext, Option.getD_some]
        · rw [if_neg ‹_›]
          exact (Option.some.inj hnext).symm
      subst hmatched
      refine ⟨Option.map_eq_some_iff.2 ⟨_, hnext, rfl⟩,
        hcovers.next hlongest rfl hgreatest rfl ?_ ?_⟩
      · exact fun hreaches _ => if_pos hreaches
      · exact fun hshorter => if_neg (Nat.not_le_of_lt hshorter)

theorem Scan.Covers.scanFrom (hcovers : scan.Covers text limit i) (hlimit : 0 < limit)
    (hi : i ≤ text.length) :
    scanFrom? text.toArray limit i scan =
        some (Lookup.scanFrom text.toArray limit i scan (text.drop i)) ∧
      (Lookup.scanFrom text.toArray limit i scan (text.drop i)).Covers text limit
        text.length := by
  generalize hrest : text.drop i = rest
  induction rest generalizing i scan with
  | nil =>
      have hend := List.drop_eq_nil_iff.1 hrest
      obtain rfl : i = text.length := by omega
      rw [scanFrom?, List.size_toArray, if_neg (Nat.lt_irrefl _)]
      exact ⟨rfl, hcovers⟩
  | cons token rest ih =>
      have hget : text[i]? = some token := by
        rw [← List.head?_drop, hrest, List.head?_cons]
      have hlt := (List.getElem?_eq_some_iff.1 hget).1
      have hrest' : text.drop (i + 1) = rest := by
        rw [← List.drop_drop, hrest, List.drop_one, List.tail_cons]
      obtain ⟨hchecked, hnext⟩ := hcovers.step hlimit hget
      rw [scanFrom?, List.size_toArray, if_pos hlt, hchecked]
      exact ih hnext hlt hrest'

end Covers

/-- The last `length` tokens of the context also stand in it from `start` on, which is
further in front. Both places may overlap. -/
structure Echoes (context : Tokens) (length start : Nat) : Prop where
  earlier : start < context.length - length
  same : context.drop (context.length - length) <+: context.drop start

def echoed (lookup : Lookup) (context : Tokens) : Set Nat :=
  {length | max lookup.minLength 1 ≤ length ∧ length ≤ lookup.maxLength ∧
    ∃ start, Echoes context length start}

section Echoes

variable {lookup : Lookup} {context : Tokens} {length start : Nat} {found : Scan}

theorem echoes_iff_recurs (hstart : start ≤ context.length) :
    Echoes context length start ↔
      Recurs context.reverse (context.length - start) length := by
  have hback : context.length - (context.length - start) = start := by omega
  have hsuffix : context.reverse.take length <:+
      context.reverse.take (context.length - start) ↔
        context.drop (context.length - length) <+: context.drop start := by
    rw [List.take_reverse, List.take_reverse, List.reverse_suffix, hback]
  constructor
  · intro h
    have hearlier := h.earlier
    exact ⟨by omega, hsuffix.2 h.same⟩
  · intro h
    have hshorter := h.shorter
    exact ⟨by omega, hsuffix.1 h.suffix⟩

theorem exists_echoes_iff :
    (∃ start, Echoes context length start) ↔
      ∃ stop ≤ context.reverse.length, Recurs context.reverse stop length := by
  rw [List.length_reverse]
  constructor
  · rintro ⟨start, hechoes⟩
    have hearlier := hechoes.earlier
    exact ⟨context.length - start, Nat.sub_le _ _,
      (echoes_iff_recurs (by omega)).1 hechoes⟩
  · rintro ⟨stop, hstop, hrecurs⟩
    refine ⟨context.length - stop, (echoes_iff_recurs (Nat.sub_le _ _)).2 ?_⟩
    rwa [Nat.sub_sub_self hstop]

theorem Scan.Covers.echoed_le
    (hcovers : found.Covers context.reverse lookup.maxLength context.reverse.length)
    (hlength : length ∈ lookup.echoed context) : length ≤ found.bestLength :=
  hcovers.best.2 ⟨hlength.2.1, exists_echoes_iff.1 hlength.2.2⟩

theorem Scan.Covers.isGreatest_echoed
    (hcovers : found.Covers context.reverse lookup.maxLength context.reverse.length)
    (hlong : max lookup.minLength 1 ≤ found.bestLength) :
    IsGreatest (lookup.echoed context) found.bestLength :=
  ⟨⟨hlong, hcovers.best.1.1, exists_echoes_iff.2 hcovers.best.1.2⟩,
    fun _ hlength => hcovers.echoed_le hlength⟩

theorem Scan.Covers.isLeast_echoes {limit : Nat}
    (hcovers : found.Covers context.reverse limit context.reverse.length)
    (hpos : 0 < found.bestLength) :
    IsLeast {start | Echoes context found.bestLength start}
      (context.length - 1 - found.bestEnd) := by
  obtain ⟨⟨hend, hrecurs⟩, hmax⟩ := hcovers.bestEnd hpos
  rw [List.length_reverse] at hend hmax
  constructor
  · refine (echoes_iff_recurs (by omega)).2 ?_
    rwa [show context.length - (context.length - 1 - found.bestEnd) = found.bestEnd + 1 by
      omega]
  · intro start hechoes
    have hearlier := hechoes.earlier
    have hrecurs := (echoes_iff_recurs (by omega)).1 hechoes
    have hle : context.length - start - 1 ≤ found.bestEnd := by
      refine hmax ⟨by omega, ?_⟩
      rwa [show context.length - start - 1 + 1 = context.length - start by omega]
    omega

end Echoes

section Draft

variable {lookup : Lookup} {context : Tokens} {count : Nat}

theorem echoed_eq_empty
    (hshort : lookup.maxLength < max lookup.minLength 1 ∨
      context.length ≤ max lookup.minLength 1) : lookup.echoed context = ∅ := by
  refine Set.eq_empty_of_forall_notMem ?_
  rintro length ⟨hmin, hmax, start, hechoes⟩
  have hearlier := hechoes.earlier
  omega

theorem draft_of_covers (hcount : 0 < count)
    (hlimit : max lookup.minLength 1 ≤ lookup.maxLength)
    (hlength : max lookup.minLength 1 < context.length) :
    ∃ found : Scan,
      found.Covers context.reverse lookup.maxLength context.reverse.length ∧
      (lookup.maxLength ≤ tableLimit → lookup.draft? context count =
        if found.bestLength < max lookup.minLength 1 then some []
        else if context.length - 1 < found.bestEnd then none
        else context.following?
          (context.length - 1 - found.bestEnd + found.bestLength) count) ∧
      lookup.draft context count = (if found.bestLength < max lookup.minLength 1 then []
        else (context.drop
          (context.length - 1 - found.bestEnd + found.bestLength)).take count) := by
  have hpos : 0 < lookup.maxLength := by omega
  have hread : 1 ≤ context.reverse.length := by
    rw [List.length_reverse]
    omega
  have hasks : ¬(count = 0 ∨ lookup.maxLength < max lookup.minLength 1 ∨
      context.length ≤ max lookup.minLength 1) := by omega
  obtain ⟨hchecked, hcovers⟩ :=
    (Scan.covers_start context.reverse hpos).scanFrom hpos hread
  rw [List.drop_one] at hchecked hcovers
  refine ⟨_, hcovers, ?_, ?_⟩
  · intro hfits
    rw [draft?, if_neg hasks, if_neg (Nat.not_lt.2 hfits), hchecked]
    rfl
  · rw [draft, if_neg hasks]
    rfl

def TableOverflows (lookup : Lookup) (context : Tokens) (count : Nat) : Prop :=
  0 < count ∧ max lookup.minLength 1 < context.length ∧
    max lookup.minLength 1 ≤ lookup.maxLength ∧ tableLimit < lookup.maxLength

theorem draft?_of_tableOverflows (hlarge : lookup.TableOverflows context count) :
    lookup.draft? context count = none := by
  obtain ⟨hcount, hlength, hlimit, hlarge⟩ := hlarge
  rw [draft?, if_neg (by omega), if_pos hlarge]

theorem draft?_of_idle (hidle : count = 0 ∨ lookup.maxLength < max lookup.minLength 1 ∨
    context.length ≤ max lookup.minLength 1) :
    lookup.draft? context count = some [] ∧ lookup.draft context count = [] :=
  ⟨by rw [draft?, if_pos hidle], by rw [draft, if_pos hidle]⟩

/-- The lookup reads no place that is not there, and drafts what a direct search does: of the
endings that stand further in front the longest one is taken, there its earliest place, and
what follows it is the draft. There is none only if the table is too large, or if the draft
may be so long that its end is no size. -/
theorem draft_is_direct_search (lookup : Lookup) (context : Tokens) (count : Nat) :
    (lookup.TableOverflows context count → lookup.draft? context count = none) ∧
      (∀ draft, lookup.draft? context count = some draft →
        lookup.draft context count = draft) ∧
      (¬lookup.TableOverflows context count →
        (count = 0 ∨ lookup.echoed context = ∅) ∧ lookup.draft? context count = some [] ∨
          0 < count ∧ ∃ length start, IsGreatest (lookup.echoed context) length ∧
            IsLeast {start | Echoes context length start} start ∧
            context.extract (start + length) (min (start + length + count) context.length) ≠
              [] ∧
            lookup.draft? context count =
              if start + length + count < UInt64.size then
                some (context.extract (start + length)
                  (min (start + length + count) context.length))
              else none) := by
  refine ⟨draft?_of_tableOverflows, ?_⟩
  by_cases hidle : count = 0 ∨ lookup.maxLength < max lookup.minLength 1 ∨
      context.length ≤ max lookup.minLength 1
  · obtain ⟨hchecked, hdraft⟩ := draft?_of_idle hidle
    rw [hchecked, hdraft]
    exact ⟨fun _ => Option.some.inj, fun _ => .inl ⟨hidle.imp id echoed_eq_empty, rfl⟩⟩
  have hcount : 0 < count := by omega
  have hlimit : max lookup.minLength 1 ≤ lookup.maxLength := by omega
  have hlength : max lookup.minLength 1 < context.length := by omega
  obtain ⟨found, hcovers, hchecked, hdraft⟩ := draft_of_covers hcount hlimit hlength
  by_cases hlarge : lookup.TableOverflows context count
  · rw [draft?_of_tableOverflows hlarge]
    exact ⟨nofun, fun hfits => absurd hlarge hfits⟩
  have hfits : lookup.maxLength ≤ tableLimit :=
    Nat.le_of_not_lt fun h => hlarge ⟨hcount, hlength, hlimit, h⟩
  rw [hchecked hfits, hdraft]
  by_cases hlong : found.bestLength < max lookup.minLength 1
  · rw [if_pos hlong, if_pos hlong]
    refine ⟨fun _ => Option.some.inj, fun _ => .inl ⟨.inr ?_, rfl⟩⟩
    refine Set.eq_empty_of_forall_notMem fun length hlength => ?_
    have hle := hcovers.echoed_le hlength
    have hmin := hlength.1
    omega
  · have hleast := hcovers.isLeast_echoes (by omega)
    have hearlier := hleast.1.earlier
    have hend := (hcovers.bestEnd (by omega)).1.1
    rw [List.length_reverse] at hend
    rw [if_neg hlong, if_neg hlong, if_neg (by omega),
      Tokens.following?_of_le (by omega), Tokens.take_drop_eq_extract]
    refine ⟨fun draft hanswer => ?_, fun _ => .inr ⟨by omega, _, _,
      hcovers.isGreatest_echoed (by omega), hleast, ?_, rfl⟩⟩
    · exact Option.some.inj (Option.ite_none_right_eq_some.1 hanswer).2
    · rw [← List.length_pos_iff, List.extract_eq_take_drop, List.length_take,
        List.length_drop]
      omega

/-- The last two tokens are the first ones, too, but a draft up to the largest size would end
behind all sizes. -/
theorem direct_search_stops_at_largest_limit :
    let lookup : Lookup := {}
    let context : Tokens := [1, 2, 3, 1, 2]
    let limit := UInt64.size - 1
    IsGreatest (lookup.echoed context) 2 ∧ IsLeast {start | Echoes context 2 start} 0 ∧
      context.extract 2 (min (2 + limit) context.length) = [3, 1, 2] ∧
      lookup.draft? context limit = none := by
  intro lookup context limit
  have hechoes : Echoes context 2 0 := ⟨by decide, by decide⟩
  have hlonger : ∀ length < 5, ∀ start < 5 - length, 2 < length →
      ¬context.drop (5 - length) <+: context.drop start := by decide
  refine ⟨⟨⟨by decide, by decide, 0, hechoes⟩, ?_⟩, ⟨hechoes, fun _ _ => Nat.zero_le _⟩,
    by decide, by decide +kernel⟩
  rintro length ⟨-, -, start, hearlier, hsame⟩
  have hinside : start < 5 - length := hearlier
  by_contra hlong
  exact hlonger length (by omega) start hinside (Nat.lt_of_not_le hlong) hsame

end Draft

/-- The last three tokens are followed by 8 elsewhere, but only two are looked up. -/
example : ({ maxLength := 2 } : Lookup).draft [2, 3, 7, 1, 2, 3, 8, 1, 2, 3] 2 = [7, 1] := by
  decide +kernel

end Lookup

end Redraft.Draft
