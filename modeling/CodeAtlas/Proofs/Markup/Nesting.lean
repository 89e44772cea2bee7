import CodeAtlas.Markup.Event
import CodeAtlas.Proofs.Keyed.Positions
import CodeAtlas.Proofs.Keyed.Repeats

/-!
# Nested events

The elements that are open after some events, and stretches of events that close whatever they open.
Where every end tag names the innermost open element, the tags of each element enclose such a stretch.
-/

namespace CodeAtlas

namespace Markup

open Keyed

/-- The open elements after one more event, the innermost first. -/
def nest (opened : List Tag) : Event → List Tag
  | .openTag tag => tag :: opened
  | .closeTag _ => opened.tail
  | .emptyTag _ | .text _ | .aside => opened

def openElements (events : List Event) : List Tag := events.foldl nest []

def Event.isFlat : Event → Bool
  | .openTag _ | .closeTag _ => false
  | .emptyTag _ | .text _ | .aside => true

def Event.begins : Event → Bool
  | .openTag _ | .emptyTag _ => true
  | .closeTag _ | .text _ | .aside => false

/-- The tags that begin an element outside of all others. -/
def rootElements (events : List Event) : List Event :=
  chosen (fun before e => e.begins && (openElements before).isEmpty) events

/-- Each start tag has its end tag, and what stands between them is balanced again. -/
inductive Balanced : List Event → Prop where
  | nil : Balanced []
  | flat {e : Event} {rest : List Event} (h : e.isFlat) (hrest : Balanced rest) :
      Balanced (e :: rest)
  | element (tag : Tag) {body rest : List Event} (hbody : Balanced body) (hrest : Balanced rest) :
      Balanced (.openTag tag :: (body ++ .closeTag tag.name :: rest))

/-- Every end tag names the innermost element that is open before it. -/
def WellNested (events : List Event) : Prop :=
  ∀ before name after, events = before ++ .closeTag name :: after →
    ∃ tag outer, openElements before = tag :: outer ∧ tag.name = name

@[simp] theorem textEvents_nil : textEvents [] = [] := rfl

@[simp] theorem openElements_nil : openElements [] = [] := rfl

@[simp] theorem openElements_append (xs ys : List Event) :
    openElements (xs ++ ys) = ys.foldl nest (openElements xs) := List.foldl_append

theorem length_rootElements_concat (events : List Event) (e : Event) :
    (rootElements (events ++ [e])).length = (rootElements events).length +
      if e.begins && (openElements events).isEmpty then 1 else 0 := by
  rw [rootElements, chosen_concat, List.length_append, ← rootElements]
  cases e.begins && (openElements events).isEmpty <;> simp

theorem length_rootElements_le (xs ys : List Event) :
    (rootElements xs).length ≤ (rootElements (xs ++ ys)).length := by
  induction ys using List.reverseRecOn with
  | nil => simp
  | append_singleton ys e ih =>
    rw [← List.append_assoc, length_rootElements_concat]
    omega

theorem nest_of_isFlat {e : Event} (h : e.isFlat) (opened : List Tag) : nest opened e = opened := by
  cases e <;> simp_all [Event.isFlat, nest]

namespace Balanced

theorem append {xs ys : List Event} (hxs : Balanced xs) (hys : Balanced ys) :
    Balanced (xs ++ ys) := by
  induction hxs with
  | nil => exact hys
  | flat h _ ih => exact ih.flat h
  | element tag hbody _ _ ih =>
    simpa using hbody.element tag ih

theorem textEvents (text : List Char) : Balanced (Markup.textEvents text) := by
  rw [Markup.textEvents]
  split
  · exact Balanced.nil
  · exact Balanced.nil.flat rfl

theorem foldl_nest {xs : List Event} (h : Balanced xs) (opened : List Tag) :
    xs.foldl nest opened = opened := by
  induction h generalizing opened with
  | nil => rfl
  | flat h _ ih => rw [List.foldl_cons, nest_of_isFlat h, ih]
  | element tag _ _ ihbody ihrest => simp [nest, ihbody, ihrest]

theorem openElements_append {ys : List Event} (h : Balanced ys) (xs : List Event) :
    openElements (xs ++ ys) = openElements xs := by
  rw [Markup.openElements_append, h.foldl_nest]

theorem exists_stop {xs before after : List Event} {tag : Tag} (h : Balanced xs)
    (hsplit : xs = before ++ .openTag tag :: after) :
    ∃ body rest, after = body ++ .closeTag tag.name :: rest ∧ Balanced body := by
  induction h generalizing before after with
  | nil => simp at hsplit
  | @flat e rest hflat _ ih =>
    cases before with
    | nil =>
      obtain ⟨rfl, -⟩ := List.cons.inj hsplit
      simp [Event.isFlat] at hflat
    | cons x before => exact ih (List.cons.inj hsplit).2
  | @element outer body rest hbody _ ihbody ihrest =>
    cases before with
    | nil =>
      obtain ⟨htag, rfl⟩ := List.cons.inj hsplit
      cases htag
      exact ⟨body, rest, rfl, hbody⟩
    | cons x before =>
      rcases append_cons_cases (List.cons.inj hsplit).2 with ⟨-, hne, -⟩ | ⟨mid, hin, rfl⟩ | ⟨mid, -, hin⟩
      · cases hne
      · obtain ⟨within, later, rfl, hwithin⟩ := ihbody hin
        exact ⟨within, later ++ .closeTag outer.name :: rest, by simp, hwithin⟩
      · exact ihrest hin

theorem exists_start {xs before after : List Event} {name : List Char} (h : Balanced xs)
    (hsplit : xs = before ++ .closeTag name :: after) :
    ∃ tag earlier body, before = earlier ++ .openTag tag :: body ∧ tag.name = name ∧
      Balanced body := by
  induction h generalizing before after with
  | nil => simp at hsplit
  | @flat e rest hflat _ ih =>
    cases before with
    | nil =>
      obtain ⟨rfl, -⟩ := List.cons.inj hsplit
      simp [Event.isFlat] at hflat
    | cons x before =>
      obtain ⟨tag, earlier, body, rfl, hname, hbody⟩ := ih (List.cons.inj hsplit).2
      exact ⟨tag, x :: earlier, body, rfl, hname, hbody⟩
  | @element outer body rest hbody _ ihbody ihrest =>
    cases before with
    | nil => cases hsplit
    | cons x before =>
      obtain ⟨rfl, htail⟩ := List.cons.inj hsplit
      rcases append_cons_cases htail with ⟨rfl, heq, -⟩ | ⟨mid, hin, -⟩ | ⟨mid, rfl, hin⟩
      · cases heq
        exact ⟨outer, [], body, rfl, rfl, hbody⟩
      · obtain ⟨tag, earlier, within, rfl, hname, hwithin⟩ := ihbody hin
        exact ⟨tag, .openTag outer :: earlier, within, rfl, hname, hwithin⟩
      · obtain ⟨tag, earlier, within, rfl, hname, hwithin⟩ := ihrest hin
        exact ⟨tag, .openTag outer :: (body ++ .closeTag outer.name :: earlier), within, by simp,
          hname, hwithin⟩

end Balanced

namespace WellNested

theorem nil : WellNested [] := by
  intro before name after h
  simp at h

theorem of_append {xs ys : List Event} (h : WellNested (xs ++ ys)) : WellNested xs := by
  intro before name after hxs
  exact h before name (after ++ ys) (by simp [hxs])

theorem concat_iff (xs : List Event) (e : Event) :
    WellNested (xs ++ [e]) ↔ WellNested xs ∧
      ∀ name, e = .closeTag name → ∃ tag outer, openElements xs = tag :: outer ∧ tag.name = name := by
  constructor
  · intro h
    refine ⟨h.of_append, ?_⟩
    rintro name rfl
    exact h xs name [] rfl
  · rintro ⟨hxs, he⟩ before name after hsplit
    rcases append_cons_cases hsplit with ⟨rfl, rfl, -⟩ | ⟨mid, rfl, -⟩ | ⟨mid, -, hnil⟩
    · exact he name rfl
    · exact hxs before name mid rfl
    · simp at hnil

theorem concat_openTag {xs : List Event} (h : WellNested xs) (tag : Tag) :
    WellNested (xs ++ [.openTag tag]) := by
  rw [concat_iff]
  refine ⟨h, ?_⟩
  intro name hname
  cases hname

theorem concat_of_isFlat {xs : List Event} {e : Event} (h : WellNested xs) (he : e.isFlat) :
    WellNested (xs ++ [e]) := by
  rw [concat_iff]
  refine ⟨h, ?_⟩
  rintro name rfl
  simp [Event.isFlat] at he

theorem exists_start {events : List Event} (h : WellNested events) {tag : Tag} {outer : List Tag}
    (hopen : openElements events = tag :: outer) :
    ∃ before body, events = before ++ .openTag tag :: body ∧ Balanced body ∧
      openElements before = outer := by
  -- The start of an enclosing element is sought in what stood before an element that was closed.
  induction hn : events.length using Nat.strongRecOn generalizing events tag outer with
  | ind n ih =>
    subst hn
    rcases List.eq_nil_or_concat' events with rfl | ⟨before, e, rfl⟩
    · simp at hopen
    · obtain ⟨hbefore, hclose⟩ := (concat_iff before e).mp h
      have hstep : nest (openElements before) e = tag :: outer := by simpa using hopen
      have hlt : before.length < (before ++ [e]).length := by simp
      by_cases hflat : e.isFlat
      · rw [nest_of_isFlat hflat] at hstep
        obtain ⟨start, body, rfl, hbody, houter⟩ := ih _ hlt hbefore hstep rfl
        have hone : Balanced [e] := Balanced.nil.flat hflat
        exact ⟨start, body ++ [e], by simp, hbody.append hone, houter⟩
      · cases e with
        | openTag t =>
          obtain ⟨rfl, rfl⟩ := List.cons.inj hstep
          exact ⟨before, [], rfl, Balanced.nil, rfl⟩
        | closeTag name =>
          obtain ⟨inner, outer', hinner, rfl⟩ := hclose name rfl
          obtain ⟨start, body, rfl, hbody, hstart⟩ := ih _ hlt hbefore hinner rfl
          have houter : openElements start = tag :: outer := by
            rw [hstart]
            simpa [hinner, nest] using hstep
          have hlt' : start.length <
              (start ++ Event.openTag inner :: body ++ [Event.closeTag inner.name]).length := by
            simp
          obtain ⟨first, body', rfl, hbody', hfirst⟩ := ih _ hlt' hbefore.of_append houter rfl
          have helement : Balanced (.openTag inner :: (body ++ [.closeTag inner.name])) :=
            hbody.element inner Balanced.nil
          exact ⟨first, body' ++ .openTag inner :: (body ++ [.closeTag inner.name]), by simp,
            hbody'.append helement, hfirst⟩
        | emptyTag t => simp [Event.isFlat] at hflat
        | text raw => simp [Event.isFlat] at hflat
        | aside => simp [Event.isFlat] at hflat

theorem append_balanced {xs ys : List Event} (h : WellNested xs) (hys : Balanced ys) :
    WellNested (xs ++ ys) := by
  induction hys generalizing xs with
  | nil => simpa using h
  | flat hflat _ ih => simpa using ih (h.concat_of_isFlat hflat)
  | @element tag body rest hbody _ ihbody ihrest =>
    have hinside := ihbody (h.concat_openTag tag)
    have hstop : WellNested (((xs ++ [.openTag tag]) ++ body) ++ [.closeTag tag.name]) := by
      rw [concat_iff]
      refine ⟨hinside, ?_⟩
      intro name hname
      cases hname
      exact ⟨tag, openElements xs, by simp [hbody.foldl_nest, nest], rfl⟩
    simpa using ihrest hstop

/-- What may follow some events may follow others that leave the same elements open. -/
theorem exchange {xs xs' ys : List Event} (h : WellNested (xs ++ ys)) (hxs' : WellNested xs')
    (hopen : openElements xs' = openElements xs) : WellNested (xs' ++ ys) := by
  induction ys using List.reverseRecOn with
  | nil => simpa using hxs'
  | append_singleton ys e ih =>
    rw [← List.append_assoc, concat_iff] at h ⊢
    refine ⟨ih h.1, ?_⟩
    intro name he
    obtain ⟨tag, outer, htop, hname⟩ := h.2 name he
    exact ⟨tag, outer, by simpa [hopen] using htop, hname⟩

theorem exchange_balanced {xs ys ys' zs : List Event} (h : WellNested (xs ++ (ys ++ zs)))
    (hys : Balanced ys) (hys' : Balanced ys') : WellNested (xs ++ (ys' ++ zs)) := by
  have hbefore : WellNested xs := h.of_append
  rw [← List.append_assoc] at h ⊢
  apply h.exchange (hbefore.append_balanced hys')
  rw [hys.openElements_append, hys'.openElements_append]

theorem exists_inner {before body : List Event} {tag : Tag}
    (h : WellNested (before ++ .openTag tag :: body))
    (hstop : ∀ name, .closeTag name ∈ body → name ≠ tag.name) :
    ∃ inner, openElements (before ++ .openTag tag :: body) = inner ++ tag :: openElements before := by
  induction body using List.reverseRecOn with
  | nil => exact ⟨[], by simp [nest]⟩
  | append_singleton body e ih =>
    have hsplit : before ++ .openTag tag :: (body ++ [e]) = (before ++ .openTag tag :: body) ++ [e] := by
      simp
    rw [hsplit, concat_iff] at h
    obtain ⟨inner, hinner⟩ := ih h.1 fun name hname => hstop name (List.mem_append_left _ hname)
    have hlast : openElements (before ++ .openTag tag :: (body ++ [e])) =
        nest (inner ++ tag :: openElements before) e := by
      rw [hsplit, ← hinner]
      simp
    rw [hlast]
    cases e with
    | openTag t => exact ⟨t :: inner, rfl⟩
    | closeTag name =>
      obtain ⟨top, outer, htop, rfl⟩ := h.2 name rfl
      cases inner with
      | nil =>
        have heq : tag = top := (List.cons.inj (hinner.symm.trans htop)).1
        exact absurd (congrArg Tag.name heq.symm) (hstop top.name (by simp))
      | cons t inner => exact ⟨inner, rfl⟩
    | emptyTag t => exact ⟨inner, rfl⟩
    | text raw => exact ⟨inner, rfl⟩
    | aside => exact ⟨inner, rfl⟩

end WellNested

end Markup

end CodeAtlas
