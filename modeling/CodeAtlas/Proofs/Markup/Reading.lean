import CodeAtlas.Proofs.Except
import CodeAtlas.Proofs.Markup.Nesting

/-!
# Reading on

Reading as a relation between two states of the reader, the characters between them and the events these
give. A document is read without a fault if its characters lead to a state where it may end, and the
events are well nested.
-/

namespace CodeAtlas.Markup

open Keyed

/-- Some characters lead from a state to another, and give some events. -/
inductive Reads : ReadState → List Char → ReadState → List Event → Prop where
  | done (s : ReadState) : Reads s [] s []
  | step {s t u : ReadState} {c : Char} {cs : List Char} {now later : List Event}
      (hstep : s.step c = .ok (t, now)) (hrest : Reads t cs u later) :
      Reads s (c :: cs) u (now ++ later)

namespace Reads

variable {s t u : ReadState} {xs ys : List Char} {now later : List Event}

theorem append (hxs : Reads s xs t now) (hys : Reads t ys u later) :
    Reads s (xs ++ ys) u (now ++ later) := by
  induction hxs with
  | done => exact hys
  | step hstep _ ih =>
    rw [List.append_assoc]
    exact Reads.step hstep (ih hys)

theorem exists_of_append {events : List Event} (h : Reads s (xs ++ ys) u events) :
    ∃ t now later, Reads s xs t now ∧ Reads t ys u later ∧ events = now ++ later := by
  induction xs generalizing s events with
  | nil => exact ⟨s, [], events, Reads.done s, h, rfl⟩
  | cons c xs ih =>
    cases h with
    | @step _ t _ _ _ first rest hstep hrest =>
      obtain ⟨t', now, later, hxs, hys, rfl⟩ := ih hrest
      exact ⟨t', first ++ now, later, Reads.step hstep hxs, hys, by simp⟩

theorem unique {t' : ReadState} {now' : List Event} (h : Reads s xs t now) (h' : Reads s xs t' now') :
    t = t' ∧ now = now' := by
  induction h generalizing t' now' with
  | done =>
    cases h'
    exact ⟨rfl, rfl⟩
  | step hstep _ ih =>
    cases h' with
    | step hstep' hrest' =>
      obtain ⟨rfl, rfl⟩ := Prod.mk.inj (Except.ok.inj (hstep.symm.trans hstep'))
      obtain ⟨rfl, rfl⟩ := ih hrest'
      exact ⟨rfl, rfl⟩

theorem silent {c : Char} {cs : List Char} (hstep : s.step c = .ok (t, [])) (hrest : Reads t cs u later) :
    Reads s (c :: cs) u later :=
  Reads.step hstep hrest

end Reads

section Scanning

def leadingText (cs : List Char) : List Char := cs.takeWhile (· != '<')

def ReadsAll (s : ReadState) (cs : List Char) (events : List Event) : Prop :=
  ∃ t now last, Reads s cs t now ∧ t.finish = .ok last ∧ events = now ++ last

theorem scanFrom_of_readsAll {s : ReadState} {cs : List Char} {events : List Event}
    (h : ReadsAll s cs events) (position : Nat) :
    (scanFrom s position cs).1.map Prod.fst = events ∧ (scanFrom s position cs).2 = none := by
  obtain ⟨t, now, last, hreads, hfinish, rfl⟩ := h
  induction hreads generalizing position with
  | done s => simp [scanFrom, hfinish, Function.comp_def]
  | @step s t u c cs now later hstep _ ih =>
    obtain ⟨hevents, hfault⟩ := ih (position + c.utf8Size) hfinish
    rw [scanFrom, hstep]
    simp [hevents, hfault, Function.comp_def]

theorem readsAll_of_scanFrom {s : ReadState} {cs : List Char} {position : Nat}
    (h : (scanFrom s position cs).2 = none) :
    ReadsAll s cs ((scanFrom s position cs).1.map Prod.fst) := by
  induction cs generalizing s position with
  | nil =>
    rw [scanFrom] at h ⊢
    cases hfinish : s.finish with
    | error fault => simp [hfinish] at h
    | ok last => exact ⟨s, [], last, Reads.done s, hfinish, by simp [Function.comp_def]⟩
  | cons c cs ih =>
    rw [scanFrom] at h ⊢
    cases hstep : s.step c with
    | error fault => simp [hstep] at h
    | ok next =>
      obtain ⟨t, now⟩ := next
      simp only [hstep] at h ⊢
      obtain ⟨u, first, last, hreads, hfinish, hevents⟩ := ih h
      refine ⟨u, now ++ first, last, Reads.step hstep hreads, hfinish, ?_⟩
      simp [hevents, Function.comp_def]

theorem ReadsAll.append {s t : ReadState} {xs ys : List Char} {now later : List Event}
    (hxs : Reads s xs t now) (hys : ReadsAll t ys later) : ReadsAll s (xs ++ ys) (now ++ later) := by
  obtain ⟨u, first, last, hreads, hfinish, rfl⟩ := hys
  exact ⟨u, now ++ first, last, hxs.append hreads, hfinish, by simp⟩

/-- What is read to the end behind some characters, once it is known what these give. -/
theorem ReadsAll.of_append {s t : ReadState} {xs ys : List Char} {now events : List Event}
    (h : ReadsAll s (xs ++ ys) events) (hxs : Reads s xs t now) :
    ∃ later, ReadsAll t ys later ∧ events = now ++ later := by
  obtain ⟨u, all, last, hreads, hfinish, rfl⟩ := h
  obtain ⟨t', now', later, hxs', hys, rfl⟩ := hreads.exists_of_append
  obtain ⟨rfl, rfl⟩ := hxs.unique hxs'
  exact ⟨later ++ last, ⟨u, later, last, hys, hfinish, rfl⟩, by simp⟩

theorem withoutMark_append {cs : List Char} (h : cs ≠ []) (rest : List Char) :
    withoutMark (cs ++ rest) = withoutMark cs ++ rest := by
  obtain ⟨c, cs, rfl⟩ := List.exists_cons_of_ne_nil h
  rw [List.cons_append, withoutMark.eq_def, withoutMark.eq_def]
  by_cases hmark : c = '\ufeff'
  · simp [hmark]
  · simp [hmark]

/-- Of the text before what is read, only the event of the first text tells. -/
theorem ReadsAll.of_content {seen cs : List Char} {events : List Event}
    (h : ReadsAll (.content seen) cs events) :
    ∃ raw later, raw = (leadingText cs).reverse ∧ events = textEvents (raw ++ seen) ++ later ∧
      ∀ seen', ReadsAll (.content seen') cs (textEvents (raw ++ seen') ++ later) := by
  obtain ⟨t, now, last, hreads, hfinish, rfl⟩ := h
  induction cs generalizing seen now with
  | nil =>
    cases hreads
    cases hfinish
    refine ⟨[], [], rfl, by simp, fun seen' => ?_⟩
    exact ⟨.content seen', [], textEvents seen', Reads.done _, rfl, by simp⟩
  | cons c cs ih =>
    cases hreads with
    | @step _ u _ _ _ now later hstep hrest =>
      by_cases hc : c = '<'
      · subst hc
        cases hstep
        refine ⟨[], later ++ last, rfl, by simp, fun seen' => ?_⟩
        exact ⟨t, textEvents seen' ++ later, last, Reads.step rfl hrest, hfinish, by simp⟩
      · have hstep' (seen' : List Char) :
            (ReadState.content seen').step c = .ok (.content (c :: seen'), []) := by
          rw [ReadState.step, if_neg hc]
        rw [hstep' seen] at hstep
        cases hstep
        obtain ⟨raw, after, rfl, hevents, hother⟩ := ih later hrest
        refine ⟨_, after, rfl, by simp [leadingText, hc, hevents], fun seen' => ?_⟩
        obtain ⟨u, first, final, hreads, hfinal, hall⟩ := hother (c :: seen')
        refine ⟨u, first, final, hreads.silent (hstep' seen'), hfinal, ?_⟩
        simpa [leadingText, hc] using hall

end Scanning

section Nesting

theorem wellNested_nestFrom (fault : Option (Nat × ReadFault)) {seen : List Event}
    {opened : List (List Char)} (hseen : WellNested seen)
    (hopen : (openElements seen).map Tag.name = opened) (found : List (Event × Nat)) :
    WellNested (seen ++ (nestFrom fault opened found).events) := by
  induction found generalizing seen opened with
  | nil => simpa [nestFrom] using hseen
  | cons entry found ih =>
    obtain ⟨e, position⟩ := entry
    have hflat (hflat : e.isFlat) :
        WellNested (seen ++ e :: (nestFrom fault opened found).events) := by
      have hnext := hseen.concat_of_isFlat hflat
      have hopen' : (openElements (seen ++ [e])).map Tag.name = opened := by
        simpa [nest_of_isFlat hflat] using hopen
      simpa using ih hnext hopen'
    cases e with
    | openTag tag =>
      have hnext := hseen.concat_openTag tag
      have hopen' : (openElements (seen ++ [.openTag tag])).map Tag.name = tag.name :: opened := by
        simpa [nest] using hopen
      simpa [nestFrom] using ih hnext hopen'
    | closeTag name =>
      cases opened with
      | nil => simpa [nestFrom] using hseen
      | cons expected outer =>
        by_cases hname : name = expected
        · subst hname
          obtain ⟨tag, tags, htags, htag, houter⟩ := List.map_eq_cons_iff.mp hopen
          have hnext : WellNested (seen ++ [.closeTag name]) := by
            rw [WellNested.concat_iff]
            refine ⟨hseen, ?_⟩
            intro name' h
            cases h
            exact ⟨tag, tags, htags, htag⟩
          have hopen' : (openElements (seen ++ [.closeTag name])).map Tag.name = outer := by
            simpa [nest, htags] using houter
          simpa [nestFrom] using ih hnext hopen'
        · simpa [nestFrom, hname] using hseen
    | emptyTag tag => exact hflat rfl
    | text raw => exact hflat rfl
    | aside => exact hflat rfl

theorem nestFrom_of_wellNested (fault : Option (Nat × ReadFault)) {seen : List Event}
    {opened : List (List Char)} (hopen : (openElements seen).map Tag.name = opened)
    {found : List (Event × Nat)} (h : WellNested (seen ++ found.map Prod.fst)) :
    nestFrom fault opened found = ⟨found.map Prod.fst, fault⟩ := by
  induction found generalizing seen opened with
  | nil => rfl
  | cons entry found ih =>
    obtain ⟨e, position⟩ := entry
    have hsplit : seen ++ ((e, position) :: found).map Prod.fst =
        (seen ++ [e]) ++ found.map Prod.fst := by simp
    have hlater : WellNested ((seen ++ [e]) ++ found.map Prod.fst) := hsplit ▸ h
    have hclose := ((WellNested.concat_iff _ _).mp hlater.of_append).2
    have hflat (hflat : e.isFlat) : nestFrom fault opened found = ⟨found.map Prod.fst, fault⟩ := by
      apply ih _ hlater
      simpa [nest_of_isFlat hflat] using hopen
    cases e with
    | openTag tag =>
      have hrest : nestFrom fault (tag.name :: opened) found = ⟨found.map Prod.fst, fault⟩ :=
        ih (by simpa [nest] using hopen) hlater
      simp [nestFrom, hrest]
    | closeTag name =>
      obtain ⟨tag, tags, htags, rfl⟩ := hclose name rfl
      rw [htags, List.map_cons] at hopen
      subst hopen
      have hrest : nestFrom fault (tags.map Tag.name) found = ⟨found.map Prod.fst, fault⟩ :=
        ih (by simp [nest, htags]) hlater
      simp [nestFrom, hrest]
    | emptyTag tag => simp [nestFrom, hflat rfl]
    | text raw => simp [nestFrom, hflat rfl]
    | aside => simp [nestFrom, hflat rfl]

theorem nestFrom_of_no_fault {fault : Option (Nat × ReadFault)} {opened : List (List Char)}
    {found : List (Event × Nat)} (h : (nestFrom fault opened found).fault = none) :
    fault = none ∧ (nestFrom fault opened found).events = found.map Prod.fst := by
  induction found generalizing opened with
  | nil => exact ⟨h, rfl⟩
  | cons entry found ih =>
    obtain ⟨e, position⟩ := entry
    cases e with
    | closeTag name =>
      cases opened with
      | nil => simp [nestFrom] at h
      | cons expected outer =>
        by_cases hname : name = expected
        · simp only [nestFrom, hname, if_true] at h ⊢
          simpa using ih h
        · simp [nestFrom, hname] at h
    | openTag tag | emptyTag tag | text raw | aside =>
      simp only [nestFrom] at h ⊢
      simpa using ih h

end Nesting

theorem wellNested_read (document : String) : WellNested (read document).events := by
  have h := wellNested_nestFrom (scanFrom (.content []) 0 (withoutMark document.toList)).2
    WellNested.nil rfl (scanFrom (.content []) 0 (withoutMark document.toList)).1
  simpa [read] using h

/-- What it takes for a document to be read without a fault. -/
theorem read_eq_iff (document : String) (events : List Event) :
    read document = ⟨events, none⟩ ↔
      ReadsAll (.content []) (withoutMark document.toList) events ∧ WellNested events := by
  constructor
  · intro h
    have hnested : WellNested events := by
      have hread := wellNested_read document
      rwa [h] at hread
    have hfault : (read document).fault = none := by rw [h]
    have hevents : (read document).events = events := by rw [h]
    obtain ⟨hnone, hall⟩ := nestFrom_of_no_fault hfault
    have hreads := readsAll_of_scanFrom hnone
    rw [← hall] at hreads
    exact ⟨hevents ▸ hreads, hnested⟩
  · rintro ⟨hreads, hnested⟩
    obtain ⟨hevents, hfault⟩ := scanFrom_of_readsAll hreads 0
    have hempty : WellNested
        ([] ++ (scanFrom (.content []) 0 (withoutMark document.toList)).1.map Prod.fst) := by
      rwa [hevents]
    have hkept := nestFrom_of_wellNested none rfl hempty
    rw [hevents, openElements_nil, List.map_nil] at hkept
    simp [read, hfault, hkept]

end CodeAtlas.Markup
