import CodeAtlas.Markup.Attribute
import CodeAtlas.Proofs.Markup.Escape
import CodeAtlas.Proofs.Markup.Reading

/-!
# Written mark-up

Tags and text as they are written, and that reading gives them back: the events with nothing else
between them, and of a tag its name and its attributes.
-/

namespace CodeAtlas.Markup

def IsWord (name : List Char) : Prop := name ≠ [] ∧ ∀ c ∈ name, c.isAlpha

def writtenAttribute (key value : String) : List Char :=
  ' ' :: (key.toList ++ '=' :: '"' :: (escape value.toList ++ ['"']))

def writtenTag (name : String) (attributes : List (String × String)) : List Char :=
  name.toList ++ attributes.flatMap fun a => writtenAttribute a.1 a.2

theorem writtenTag_concat (name : String) (attributes : List (String × String)) (key value : String) :
    writtenTag name (attributes ++ [(key, value)]) =
      writtenTag name attributes ++ writtenAttribute key value := by
  simp [writtenTag]

section Words

theorem ne_of_isAlpha {c d : Char} (hc : c.isAlpha) (hd : d.isAlpha = false) : c ≠ d := by
  rintro rfl
  rw [hc] at hd
  cases hd

theorem isSpace_of_isAlpha {c : Char} (h : c.isAlpha) : isSpace c = false := by
  have hblank : c ≠ ' ' := ne_of_isAlpha h (by decide)
  have htab : c ≠ '\t' := ne_of_isAlpha h (by decide)
  have hreturn : c ≠ '\r' := ne_of_isAlpha h (by decide)
  have hfeed : c ≠ '\n' := ne_of_isAlpha h (by decide)
  simp [isSpace, hblank, htab, hreturn, hfeed]

theorem isWord_of_all {name : List Char} (hne : name ≠ []) (h : name.all Char.isAlpha = true) :
    IsWord name := ⟨hne, List.all_eq_true.mp h⟩

theorem IsWord.not_mem {name : List Char} (h : IsWord name) {d : Char} (hd : d.isAlpha = false) :
    d ∉ name :=
  fun hmem => ne_of_isAlpha (h.2 d hmem) hd rfl

end Words

section Lookup

variable (wanted : List Char)

theorem lookupFrom_value {value : List Char} (h : '"' ∉ value) (position : Nat) (key seen : List Char) :
    ∃ next, ∀ rest,
      lookupFrom wanted (.value key '"' seen) position (value ++ '"' :: rest) =
        if key.reverse = wanted then .ok (some (seen.reverse ++ value))
        else lookupFrom wanted .gap next rest := by
  induction value generalizing position seen with
  | nil =>
    refine ⟨position + '"'.utf8Size, fun rest => ?_⟩
    rw [List.nil_append, List.append_nil, lookupFrom, if_pos rfl]
  | cons c value ih =>
    rw [List.mem_cons, not_or] at h
    obtain ⟨hc, hvalue⟩ := h
    obtain ⟨next, hnext⟩ := ih hvalue (position + c.utf8Size) (c :: seen)
    refine ⟨next, fun rest => ?_⟩
    rw [List.cons_append, lookupFrom, if_neg (Ne.symm hc), hnext]
    simp

theorem lookupFrom_key {key : List Char} (h : ∀ c ∈ key, c.isAlpha) (position : Nat)
    (seen : List Char) : ∃ next, ∀ rest,
      lookupFrom wanted (.key seen) position (key ++ '=' :: '"' :: rest) =
        lookupFrom wanted (.value (key.reverse ++ seen) '"' []) next rest := by
  induction key generalizing position seen with
  | nil =>
    refine ⟨position + '='.utf8Size + '"'.utf8Size, fun rest => ?_⟩
    have hquote : isSpace '"' = false := by decide
    rw [List.nil_append, lookupFrom, if_pos rfl, lookupFrom, hquote, if_neg Bool.false_ne_true,
      if_pos (Or.inl rfl)]
    rfl
  | cons c key ih =>
    have hc := h c List.mem_cons_self
    have hequals : c ≠ '=' := ne_of_isAlpha hc (by decide)
    obtain ⟨next, hnext⟩ := ih (fun d hd => h d (List.mem_cons_of_mem _ hd)) (position + c.utf8Size)
      (c :: seen)
    refine ⟨next, fun rest => ?_⟩
    rw [List.cons_append, lookupFrom, if_neg hequals, isSpace_of_isAlpha hc,
      if_neg Bool.false_ne_true, hnext]
    simp

theorem lookupFrom_attribute {key : String} (h : IsWord key.toList) (value : String)
    (position : Nat) : ∃ next, ∀ rest,
      lookupFrom wanted .gap position (writtenAttribute key value ++ rest) =
        if key.toList = wanted then .ok (some (escape value.toList))
        else lookupFrom wanted .gap next rest := by
  obtain ⟨c, letters, hkey⟩ := List.exists_cons_of_ne_nil h.1
  have hletters := h.2
  rw [hkey] at hletters
  have hc := hletters c List.mem_cons_self
  obtain ⟨behind, hbehind⟩ := lookupFrom_key wanted
    (fun d hd => hletters d (List.mem_cons_of_mem _ hd)) (position + ' '.utf8Size + c.utf8Size) [c]
  obtain ⟨next, hnext⟩ := lookupFrom_value wanted
    (not_mem_escape (by simp) value.toList) behind (letters.reverse ++ [c]) []
  refine ⟨next, fun rest => ?_⟩
  have hblank : isSpace ' ' = true := by decide
  simp only [writtenAttribute, hkey, List.cons_append, List.append_assoc, List.nil_append]
  rw [lookupFrom, hblank, if_pos rfl, lookupFrom, isSpace_of_isAlpha hc, if_neg Bool.false_ne_true,
    hbehind, hnext]
  simp

theorem lookupFrom_attributes (wanted : String) {attributes : List (String × String)}
    (h : ∀ a ∈ attributes, IsWord a.1.toList) (position : Nat) :
    lookupFrom wanted.toList .gap position (attributes.flatMap fun a => writtenAttribute a.1 a.2) =
      .ok ((attributes.lookup wanted).map fun value => escape value.toList) := by
  induction attributes generalizing position with
  | nil => rfl
  | cons a attributes ih =>
    obtain ⟨key, value⟩ := a
    obtain ⟨next, hnext⟩ := lookupFrom_attribute wanted.toList
      (h (key, value) List.mem_cons_self) value position
    rw [List.flatMap_cons, hnext, List.lookup_cons, ih fun a ha => h a (List.mem_cons_of_mem _ ha)]
    by_cases hkey : key = wanted
    · simp [hkey]
    · have hne : (wanted == key) = false := beq_eq_false_iff_ne.mpr (Ne.symm hkey)
      simp [String.toList_inj, hkey, hne]

end Lookup

section Tags

variable {name : String} {attributes : List (String × String)}

theorem takeWhile_name (h : IsWord name.toList) :
    (writtenTag name attributes).takeWhile (fun c => !isSpace c) = name.toList ∧
      (writtenTag name attributes).dropWhile (fun c => !isSpace c) =
        attributes.flatMap fun a => writtenAttribute a.1 a.2 := by
  have hletters : ∀ c ∈ name.toList, (!isSpace c) = true := by
    intro c hc
    simp [isSpace_of_isAlpha (h.2 c hc)]
  have hblank : isSpace ' ' = true := by decide
  rw [writtenTag, List.takeWhile_append_of_pos hletters, List.dropWhile_append_of_pos hletters]
  cases attributes with
  | nil => simp
  | cons a attributes => simp [writtenAttribute, hblank]

theorem name_writtenTag (h : IsWord name.toList) :
    Tag.name ⟨writtenTag name attributes⟩ = name.toList := (takeWhile_name h).1

theorem attribute?_writtenTag (h : IsWord name.toList) (hkeys : ∀ a ∈ attributes, IsWord a.1.toList)
    (wanted : String) : Tag.attribute? ⟨writtenTag name attributes⟩ wanted =
      .ok ((attributes.lookup wanted).map fun value => escape value.toList) := by
  rw [Tag.attribute?, (takeWhile_name h).2, lookupFrom_attributes wanted hkeys]

end Tags

section Quotes

theorem foldl_quoteAfter_some {cs : List Char} {quote : Char} (h : quote ∉ cs) :
    cs.foldl quoteAfter (some quote) = some quote := by
  induction cs with
  | nil => rfl
  | cons c cs ih =>
    rw [List.mem_cons, not_or] at h
    obtain ⟨hc, hcs⟩ := h
    rw [List.foldl_cons, quoteAfter, if_neg (Ne.symm hc), ih hcs]

theorem foldl_quoteAfter_word {cs : List Char} (h : ∀ c ∈ cs, c.isAlpha) :
    cs.foldl quoteAfter none = none := by
  induction cs with
  | nil => rfl
  | cons c cs ih =>
    have hc := h c List.mem_cons_self
    have hdouble : c ≠ '"' := ne_of_isAlpha hc (by decide)
    have hsingle : c ≠ '\'' := ne_of_isAlpha hc (by decide)
    have hplain : ¬ (c = '"' ∨ c = '\'') := by simp [hdouble, hsingle]
    rw [List.foldl_cons, quoteAfter, if_neg hplain, ih fun d hd => h d (List.mem_cons_of_mem _ hd)]

theorem foldl_quoteAfter_attribute {key : String} (h : IsWord key.toList) (value : String) :
    (writtenAttribute key value).foldl quoteAfter none = none := by
  have hvalue := foldl_quoteAfter_some (not_mem_escape (by simp) value.toList : '"' ∉ _)
  have hopen : quoteAfter none ' ' = none ∧ quoteAfter none '=' = none ∧
      quoteAfter none '"' = some '"' ∧ quoteAfter (some '"') '"' = none := by decide
  simp [writtenAttribute, foldl_quoteAfter_word h.2, hvalue, hopen]

end Quotes

/-- What may stand between the angle brackets of a start tag. -/
structure InBrackets (content : List Char) : Prop where
  begins : ∃ c rest, content = c :: rest ∧ c.isAlpha
  unclosed : '>' ∉ content
  quotes : content.foldl quoteAfter none = none
  ends : ∀ c ∈ content.getLast?, c ≠ '/'

theorem inBrackets_writtenTag {name : String} (hname : IsWord name.toList)
    {attributes : List (String × String)} (hkeys : ∀ a ∈ attributes, IsWord a.1.toList) :
    InBrackets (writtenTag name attributes) := by
  induction attributes using List.reverseRecOn with
  | nil =>
    simp only [writtenTag, List.flatMap_nil, List.append_nil]
    obtain ⟨c, rest, hsplit⟩ := List.exists_cons_of_ne_nil hname.1
    constructor
    case begins => exact ⟨c, rest, hsplit, hname.2 c (by simp [hsplit])⟩
    case unclosed => exact hname.not_mem (by decide)
    case quotes => exact foldl_quoteAfter_word hname.2
    case ends => exact fun c hc => ne_of_isAlpha (hname.2 c (List.mem_of_getLast? hc)) (by decide)
  | append_singleton attributes a ih =>
    obtain ⟨key, value⟩ := a
    have hkey : IsWord key.toList := hkeys (key, value) (by simp)
    have hbefore := ih fun a ha => hkeys a (List.mem_append_left _ ha)
    rw [writtenTag_concat]
    constructor
    case begins =>
      obtain ⟨c, rest, hsplit, hc⟩ := hbefore.begins
      exact ⟨c, rest ++ writtenAttribute key value, by simp [hsplit], hc⟩
    case unclosed =>
      have hvalue : '>' ∉ escape value.toList := not_mem_escape (by simp) _
      have hword : '>' ∉ key.toList := hkey.not_mem (by decide)
      simp [writtenAttribute, hbefore.unclosed, hvalue, hword]
    case quotes => rw [List.foldl_append, hbefore.quotes, foldl_quoteAfter_attribute hkey]
    case ends => simp [writtenAttribute, List.getLast?_cons]

namespace Reads

theorem content {cs : List Char} (h : '<' ∉ cs) (seen : List Char) :
    Reads (.content seen) cs (.content (cs.reverse ++ seen)) [] := by
  induction cs generalizing seen with
  | nil => exact Reads.done _
  | cons c cs ih =>
    rw [List.mem_cons, not_or] at h
    obtain ⟨hc, hcs⟩ := h
    have hstep : (ReadState.content seen).step c = .ok (.content (c :: seen), []) := by
      rw [ReadState.step, if_neg (Ne.symm hc)]
    have hrest := ih hcs (c :: seen)
    simpa using hrest.silent hstep

theorem tag {cs : List Char} (h : '>' ∉ cs) (quote : Option Char) (seen : List Char) :
    Reads (.tag quote seen) cs (.tag (cs.foldl quoteAfter quote) (cs.reverse ++ seen)) [] := by
  induction cs generalizing quote seen with
  | nil => exact Reads.done _
  | cons c cs ih =>
    rw [List.mem_cons, not_or] at h
    obtain ⟨hc, hcs⟩ := h
    have hstep : (ReadState.tag quote seen).step c =
        .ok (.tag (quoteAfter quote c) (c :: seen), []) := by
      rw [ReadState.step, if_neg fun hend => hc hend.1.symm]
    have hrest := ih hcs (quoteAfter quote c) (c :: seen)
    simpa using hrest.silent hstep

theorem closing {cs : List Char} (h : '>' ∉ cs) (quote : Option Char) (seen : List Char) :
    Reads (.closing quote seen) cs (.closing (cs.foldl quoteAfter quote) (cs.reverse ++ seen)) [] := by
  induction cs generalizing quote seen with
  | nil => exact Reads.done _
  | cons c cs ih =>
    rw [List.mem_cons, not_or] at h
    obtain ⟨hc, hcs⟩ := h
    have hstep : (ReadState.closing quote seen).step c =
        .ok (.closing (quoteAfter quote c) (c :: seen), []) := by
      rw [ReadState.step, if_neg fun hend => hc hend.1.symm]
    have hrest := ih hcs (quoteAfter quote c) (c :: seen)
    simpa using hrest.silent hstep

theorem opened {content : List Char} (h : InBrackets content) (seen : List Char) :
    Reads (.content seen) ('<' :: content) (.tag none content.reverse) (textEvents seen) := by
  obtain ⟨c, rest, rfl, hc⟩ := h.begins
  have hbang : c ≠ '!' := ne_of_isAlpha hc (by decide)
  have hslash : c ≠ '/' := ne_of_isAlpha hc (by decide)
  have hquestion : c ≠ '?' := ne_of_isAlpha hc (by decide)
  have hunclosed := h.unclosed
  rw [List.mem_cons, not_or] at hunclosed
  obtain ⟨hclosed, hrest⟩ := hunclosed
  have hbracket : (ReadState.content seen).step '<' = .ok (.opened, textEvents seen) := rfl
  have hfirst : ReadState.opened.step c = .ok (.tag (quoteAfter none c) [c], []) := by
    rw [ReadState.step, if_neg hbang, if_neg hslash, if_neg hquestion, if_neg (Ne.symm hclosed)]
  have hinside := tag hrest (quoteAfter none c) [c]
  rw [← List.foldl_cons, h.quotes] at hinside
  have hall := Reads.step hbracket (hinside.silent hfirst)
  simpa using hall

theorem openTag {content : List Char} (h : InBrackets content) (seen : List Char) :
    Reads (.content seen) ('<' :: (content ++ ['>'])) (.content [])
      (textEvents seen ++ [.openTag ⟨content⟩]) := by
  have hevent : tagEvent content.reverse = .openTag ⟨content⟩ := by
    cases hreversed : content.reverse with
    | nil => simp_all [tagEvent]
    | cons c rest =>
      have hc : c ≠ '/' := h.ends c (by simp [← List.head?_reverse, hreversed])
      have hback : content = (c :: rest).reverse := by rw [← hreversed, List.reverse_reverse]
      simp [tagEvent, hc, hback]
  have hend : (ReadState.tag none content.reverse).step '>' =
      .ok (.content [], [.openTag ⟨content⟩]) := by
    rw [← hevent]
    rfl
  exact (opened h seen).append (Reads.step hend (Reads.done _))

theorem emptyTag {content : List Char} (h : InBrackets content) (seen : List Char) :
    Reads (.content seen) ('<' :: (content ++ ['/', '>'])) (.content [])
      (textEvents seen ++ [.emptyTag ⟨content⟩]) := by
  have hslash : (ReadState.tag none content.reverse).step '/' =
      .ok (.tag none ('/' :: content.reverse), []) := rfl
  have hend : (ReadState.tag none ('/' :: content.reverse)).step '>' =
      .ok (.content [], [.emptyTag ⟨content⟩]) := by
    simp [ReadState.step, tagEvent]
  exact (opened h seen).append ((Reads.step hend (Reads.done _)).silent hslash)

theorem closeTag {name : List Char} (h : IsWord name) (seen : List Char) :
    Reads (.content seen) ('<' :: '/' :: (name ++ ['>'])) (.content [])
      (textEvents seen ++ [.closeTag name]) := by
  have hname : closedName name.reverse = name := by
    obtain ⟨before, c, rfl⟩ := (List.eq_nil_or_concat' name).resolve_left h.1
    have hc : isSpace c = false := isSpace_of_isAlpha (h.2 c (by simp))
    simp [closedName, hc]
  have hbracket : (ReadState.content seen).step '<' = .ok (.opened, textEvents seen) := rfl
  have hslash : ReadState.opened.step '/' = .ok (.closing none [], []) := rfl
  have hinside := closing (h.not_mem (by decide)) none []
  rw [foldl_quoteAfter_word h.2, List.append_nil] at hinside
  have hend : (ReadState.closing none name.reverse).step '>' =
      .ok (.content [], [.closeTag name]) := by
    rw [← hname]
    simp [ReadState.step, hname]
  have hall := Reads.step hbracket ((hinside.append (Reads.step hend (Reads.done _))).silent hslash)
  simpa using hall

end Reads

end CodeAtlas.Markup
