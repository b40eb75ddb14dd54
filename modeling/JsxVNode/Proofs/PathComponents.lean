import Mathlib.Data.List.Basic
import JsxVNode.Files.Path
/-!
The components of the paths that the path operations build. A path is its lead text followed by
its segments with `/` between them (`assemble_segments`), and the segments of a path assembled
from slash-free segments that fit its lead are those segments again (`segments_assemble`). From
this, `withExtension` changes only the last component (`components_withExtension`), `join` puts
the components of its second path after those of its first (`components_join`), and
`stripPrefix?` drops the components of the base (`components_stripPrefix`).
-/
namespace JsxVNode.Path

/-! ### Segments -/

theorem not_mem_of_mem_splitOn {c : Char} :
    ∀ {xs w : List Char}, w ∈ xs.splitOn c → c ∉ w
  | [], w, mem => by
    rw [List.splitOn_nil, List.mem_singleton] at mem
    subst mem
    simp
  | x :: xs, w, mem => by
    rw [List.splitOn_cons_eq_if_modifyHead] at mem
    split at mem
    · rcases List.mem_cons.1 mem with rfl | mem
      · simp
      · exact not_mem_of_mem_splitOn mem
    · rename_i other
      obtain ⟨r, rs, pieces⟩ := List.exists_cons_of_ne_nil (List.splitOn_ne_nil c xs)
      rw [pieces, List.modifyHead_cons] at mem
      rcases List.mem_cons.1 mem with rfl | mem
      · have rest : c ∉ r := not_mem_of_mem_splitOn (pieces ▸ List.mem_cons_self)
        simp only [List.mem_cons, not_or]
        exact ⟨fun same => other (by rw [same, beq_self_eq_true]), rest⟩
      · exact not_mem_of_mem_splitOn (pieces ▸ List.mem_cons_of_mem r mem)

def body (p : String) : List Char := if (lead p).isSome then p.toList.drop 1 else p.toList

theorem segments_eq (p : String) : segments p = ((body p).splitOn '/').map String.ofList := by
  unfold segments body
  cases lead p <;> rfl

theorem slash_not_mem_of_mem_segments {p s : String} (mem : s ∈ segments p) : '/' ∉ s.toList := by
  rw [segments_eq, List.mem_map] at mem
  obtain ⟨w, piece, rfl⟩ := mem
  rw [String.toList_ofList]
  exact not_mem_of_mem_splitOn piece

theorem toList_assemble (leadText : String) (segments : List String) :
    (assemble leadText segments).toList =
      leadText.toList ++ ['/'].intercalate (segments.map String.toList) := by
  simp [assemble]

theorem toList_of_lead {p : String} {c : Component} (h : lead p = some c) :
    (c = .root ∧ ∃ rest, p.toList = '/' :: rest) ∨
      (c = .current ∧ (p.toList = ['.'] ∨ ∃ rest, p.toList = '.' :: '/' :: rest)) := by
  unfold lead at h
  split at h <;> cases h
  · exact .inl ⟨rfl, _, ‹_›⟩
  · exact .inr ⟨rfl, .inl ‹_›⟩
  · exact .inr ⟨rfl, .inr ⟨_, ‹_›⟩⟩

theorem toList_leadText (p : String) : (leadText p).toList ++ body p = p.toList := by
  cases led : lead p with
  | none => simp [leadText, body, led]
  | some c =>
    rcases toList_of_lead led with ⟨rfl, rest, text⟩ | ⟨rfl, text | ⟨rest, text⟩⟩ <;>
      simp [leadText, body, led, text]

theorem assemble_segments (p : String) : assemble (leadText p) (segments p) = p := by
  apply String.toList_inj.mp
  rw [toList_assemble, segments_eq, List.map_map]
  have back : String.toList ∘ String.ofList = id := funext fun w => String.toList_ofList
  rw [back, List.map_id, List.intercalate_splitOn, toList_leadText]

/-! ### Assembled paths -/

theorem lead_of_toList_root {p : String} {rest : List Char} (text : p.toList = '/' :: rest) :
    lead p = some .root := by
  simp [lead, text]

theorem lead_of_toList_current {p : String}
    (text : p.toList = ['.'] ∨ ∃ rest, p.toList = '.' :: '/' :: rest) :
    lead p = some .current := by
  rcases text with text | ⟨rest, text⟩ <;> simp [lead, text]

theorem lead_of_toList_plain {p : String} {c : Char} {cs : List Char} (text : p.toList = c :: cs)
    (notRoot : c ≠ '/') (notCurrent : c = '.' → ∃ d ds, cs = d :: ds ∧ d ≠ '/') :
    lead p = none := by
  unfold lead
  rw [text]
  split
  · rename_i same
    cases same
    exact absurd rfl notRoot
  · rename_i same
    cases same
    obtain ⟨d, ds, empty, -⟩ := notCurrent rfl
    cases empty
  · rename_i same
    cases same
    obtain ⟨d, ds, same, other⟩ := notCurrent rfl
    cases same
    exact absurd rfl other
  · rfl

theorem intercalate_slash_cons (a : List Char) (rest : List (List Char)) :
    ∃ tail, ['/'].intercalate (a :: rest) = a ++ tail ∧ (tail = [] ∨ ∃ more, tail = '/' :: more) := by
  cases rest with
  | nil => exact ⟨[], by simp, .inl rfl⟩
  | cons b rest => exact ⟨'/' :: ['/'].intercalate (b :: rest), by simp, .inr ⟨_, rfl⟩⟩

/-- Segments that can follow a lead: after `.`, the empty segment that its separator leaves;
without a lead, a first segment that is neither empty nor `.`, which opens no lead. -/
def Fits : Option Component → List String → Prop
  | some .current, segs => segs.head? = some ""
  | none, segs => ∀ h ∈ segs.head?, h ≠ "" ∧ h ≠ "."
  | _, _ => True

theorem segments_assemble {p : String} {segs : List String}
    (slashFree : ∀ s ∈ segs, '/' ∉ s.toList) (nonempty : segs ≠ []) (fits : Fits (lead p) segs) :
    lead (assemble (leadText p) segs) = lead p ∧ segments (assemble (leadText p) segs) = segs := by
  have pieces : (['/'].intercalate (segs.map String.toList)).splitOn '/' = segs.map String.toList :=
    List.splitOn_intercalate '/' (by simpa using slashFree) (by simpa using nonempty)
  have back : (segs.map String.toList).map String.ofList = segs := by simp
  have segmentsOf : ∀ q : String, body q = ['/'].intercalate (segs.map String.toList) →
      segments q = segs := by
    intro q text
    rw [segments_eq, text, pieces, back]
  obtain ⟨h, t, rfl⟩ := List.exists_cons_of_ne_nil nonempty
  obtain ⟨tail, joined, shape⟩ := intercalate_slash_cons h.toList (t.map String.toList)
  rw [List.map_cons, joined] at segmentsOf
  have noSlash := slashFree h List.mem_cons_self
  cases led : lead p with
  | none =>
    rw [led] at fits
    obtain ⟨notEmpty, notDot⟩ := fits h rfl
    have text : (assemble (leadText p) (h :: t)).toList = h.toList ++ tail := by
      rw [toList_assemble, List.map_cons, joined]
      simp [leadText, led]
    obtain ⟨c, cs, chars⟩ : ∃ c cs, h.toList = c :: cs :=
      List.exists_cons_of_ne_nil (by simpa using notEmpty)
    have plain : lead (assemble (leadText p) (h :: t)) = none := by
      refine lead_of_toList_plain (by rw [text, chars, List.cons_append])
        (fun same => noSlash (by rw [chars, same]; simp)) fun dot => ?_
      obtain ⟨d, ds, rfl⟩ : ∃ d ds, cs = d :: ds := by
        refine List.exists_cons_of_ne_nil fun empty => notDot (String.toList_inj.mp ?_)
        rw [chars, dot, empty]
        simp
      exact ⟨d, ds ++ tail, rfl, fun same => noSlash (by rw [chars, same]; simp)⟩
    refine ⟨plain, segmentsOf _ ?_⟩
    simp [body, plain, text]
  | some c =>
    rcases toList_of_lead led with ⟨rfl, -⟩ | ⟨rfl, -⟩
    · have text : (assemble (leadText p) (h :: t)).toList = '/' :: (h.toList ++ tail) := by
        rw [toList_assemble, List.map_cons, joined]
        simp [leadText, led]
      have rooted := lead_of_toList_root text
      refine ⟨rooted, segmentsOf _ ?_⟩
      simp [body, rooted, text]
    · rw [led] at fits
      obtain rfl : h = "" := by simpa [Fits] using fits
      have text : (assemble (leadText p) ("" :: t)).toList = '.' :: tail := by
        rw [toList_assemble, List.map_cons, joined]
        simp [leadText, led]
      have current : lead (assemble (leadText p) ("" :: t)) = some .current := by
        refine lead_of_toList_current ?_
        rcases shape with rfl | ⟨more, rfl⟩
        · exact .inl text
        · exact .inr ⟨more, text⟩
      refine ⟨current, segmentsOf _ ?_⟩
      simp [body, current, text]

theorem head_splitOn (c : Char) (xs : List Char) :
    (xs.splitOn c).head? = some (xs.takeWhile (· != c)) := by
  induction xs with
  | nil => simp
  | cons x xs ih =>
    rw [List.splitOn_cons_eq_if_modifyHead]
    by_cases same : x = c
    · simp [same]
    · obtain ⟨r, rs, pieces⟩ := List.exists_cons_of_ne_nil (List.splitOn_ne_nil c xs)
      rw [pieces, List.head?_cons] at ih
      simp [same, pieces, ← Option.some.inj ih]

theorem segments_fit {p : String} (nonempty : p ≠ "") : Fits (lead p) (segments p) := by
  cases led : lead p with
  | none =>
    obtain ⟨c, cs, text⟩ : ∃ c cs, p.toList = c :: cs :=
      List.exists_cons_of_ne_nil (by rwa [ne_eq, String.toList_eq_nil_iff])
    have first : (segments p).head? = some (String.ofList (c :: cs.takeWhile (· != '/'))) := by
      have notRoot : c ≠ '/' := fun same => by
        rw [lead_of_toList_root (same ▸ text)] at led
        cases led
      simp [segments_eq, body, led, text, List.head?_map, head_splitOn, notRoot]
    intro h mem
    rw [first, Option.mem_def, Option.some_inj] at mem
    subst mem
    refine ⟨by simp, fun dot => ?_⟩
    have chars := congrArg String.toList dot
    simp only [String.toList_ofList] at chars
    obtain ⟨rfl, ahead⟩ : c = '.' ∧ cs.takeWhile (· != '/') = [] := by simpa using chars
    have current : lead p = some .current := by
      refine lead_of_toList_current ?_
      rcases cs with _ | ⟨d, ds⟩
      · exact .inl text
      · have slash : d = '/' := by simpa [List.takeWhile_cons] using ahead
        exact .inr ⟨ds, slash ▸ text⟩
    rw [led] at current
    cases current
  | some c =>
    rcases toList_of_lead led with ⟨rfl, -⟩ | ⟨rfl, text | ⟨rest, text⟩⟩
    · trivial
    · simp [Fits, segments_eq, body, led, text]
    · simp [Fits, segments_eq, body, led, text, List.head?_map, head_splitOn]

/-! ### Renaming the file -/

theorem ofSegment_eq_none_iff {s : String} : Component.ofSegment s = none ↔ isTrivial s = true := by
  unfold Component.ofSegment isTrivial
  split
  · simp_all
  · split <;> simp_all

theorem trimEnd_append (segments : List String) :
    ∃ trailing, segments = trimEnd segments ++ trailing ∧ ∀ t ∈ trailing, isTrivial t = true := by
  refine ⟨(segments.reverse.takeWhile isTrivial).reverse, ?_, fun t mem => ?_⟩
  · rw [trimEnd, ← List.reverse_append, List.takeWhile_append_dropWhile, List.reverse_reverse]
  · exact List.all_eq_true.mp List.all_takeWhile t (List.mem_reverse.mp mem)

theorem ne_of_ofSegment_normal {s name : String} (named : Component.ofSegment s = some (.normal name)) :
    s ≠ "" ∧ s ≠ "." := by
  have kept : isTrivial s = false := by
    rw [← Bool.not_eq_true, ← ofSegment_eq_none_iff, named]
    simp
  simp only [isTrivial, Bool.or_eq_false_iff, beq_eq_false_iff_ne] at kept
  exact kept

theorem Fits.replaceLast {led : Option Component} {before trailing : List String}
    {last name renamed : String} (fits : Fits led (before ++ last :: trailing))
    (named : Component.ofSegment last = some (.normal name))
    (plain : Component.ofSegment renamed = some (.normal renamed)) :
    Fits led (before ++ [renamed]) := by
  have kept := ne_of_ofSegment_normal named
  have fresh := ne_of_ofSegment_normal plain
  match led, before with
  | none, [] =>
    intro h mem
    simp only [List.nil_append, List.head?_cons, Option.mem_def, Option.some_inj] at mem
    exact mem ▸ fresh
  | none, b :: _ => exact fits
  | some .current, [] => exact absurd (by simpa [Fits] using fits) kept.1
  | some .current, b :: _ => exact fits
  | some .root, _ => trivial
  | some .parent, _ => trivial
  | some (.normal _), _ => trivial

theorem segments_empty : segments "" = [""] := by decide

theorem isTrivial_of_trimEnd {segments before : List String} {last : String}
    (split : (trimEnd segments).reverse = last :: before) : isTrivial last = false := by
  rw [trimEnd, List.reverse_reverse] at split
  have head := @List.head_dropWhile_not _ isTrivial segments.reverse (by simp [split])
  simpa [split] using head

theorem components_of_split {p last : String} {before : List String} {c : Component}
    (split : (trimEnd (segments p)).reverse = last :: before)
    (named : Component.ofSegment last = some c) :
    components p = (lead p).toList ++ before.reverse.filterMap Component.ofSegment ++ [c] := by
  obtain ⟨trailing, whole, trivial⟩ := trimEnd_append (segments p)
  have dropped : trailing.filterMap Component.ofSegment = [] :=
    List.filterMap_eq_nil_iff.mpr fun t mem => ofSegment_eq_none_iff.mpr (trivial t mem)
  rw [components, whole, ← List.reverse_reverse (trimEnd (segments p)), split,
    List.reverse_cons, List.filterMap_append, List.filterMap_append, List.filterMap_cons_some named,
    dropped]
  simp

/-- Where the last of the segments that are kept is a file name. -/
structure LastName (p last name : String) (before : List String) : Prop where
  split : (trimEnd (segments p)).reverse = last :: before
  named : Component.ofSegment last = some (.normal name)

namespace LastName

variable {p last name : String} {before : List String}

theorem nonempty (ends : LastName p last name before) : p ≠ "" := by
  rintro rfl
  have split := ends.split
  rw [segments_empty] at split
  simp [trimEnd, isTrivial] at split

theorem segments_eq (ends : LastName p last name before) :
    ∃ trailing, segments p = before.reverse ++ last :: trailing ∧
      ∀ t ∈ trailing, isTrivial t = true := by
  obtain ⟨trailing, whole, trivial⟩ := trimEnd_append (segments p)
  refine ⟨trailing, ?_, trivial⟩
  rw [whole, ← List.reverse_reverse (trimEnd (segments p)), ends.split]
  simp

/-- The components of a path whose last kept segment is a file name end with that name. -/
theorem components_eq (ends : LastName p last name before) :
    components p = (lead p).toList ++ before.reverse.filterMap Component.ofSegment ++
      [.normal name] :=
  components_of_split ends.split ends.named

/-- Assembling the path again with another file name in place of the last changes only the last
component. -/
theorem assemble_spec (ends : LastName p last name before) {renamed : String}
    (plain : Component.ofSegment renamed = some (.normal renamed))
    (slashFree : '/' ∉ renamed.toList) :
    lead (assemble (leadText p) (before.reverse ++ [renamed])) = lead p ∧
      segments (assemble (leadText p) (before.reverse ++ [renamed])) =
        before.reverse ++ [renamed] := by
  obtain ⟨trailing, whole, -⟩ := ends.segments_eq
  have fits := segments_fit ends.nonempty
  rw [whole] at fits
  have kept : ∀ s ∈ before.reverse ++ [renamed], '/' ∉ s.toList := by
    intro s mem
    rcases List.mem_append.mp mem with mem | mem
    · exact slash_not_mem_of_mem_segments (whole ▸ List.mem_append_left _ mem)
    · rw [List.mem_singleton.mp mem]
      exact slashFree
  exact segments_assemble kept (by simp) (fits.replaceLast ends.named plain)

theorem components_assemble (ends : LastName p last name before) {renamed : String}
    (plain : Component.ofSegment renamed = some (.normal renamed))
    (slashFree : '/' ∉ renamed.toList) :
    components (assemble (leadText p) (before.reverse ++ [renamed])) =
      (lead p).toList ++ before.reverse.filterMap Component.ofSegment ++ [.normal renamed] := by
  obtain ⟨led, segs⟩ := ends.assemble_spec plain slashFree
  rw [components, led, segs, List.filterMap_append, List.filterMap_cons_some plain]
  simp

end LastName

/-! ### File names -/

theorem splitName_append {stem x : String} (named : stem ≠ "") (noDot : '.' ∉ x.toList) :
    splitName (stem ++ "." ++ x) = (stem, some x) := by
  have after : (x.toList.reverse ++ '.' :: stem.toList.reverse).takeWhile (· != '.') =
      x.toList.reverse := by
    rw [List.takeWhile_append_of_pos fun a mem => by
      simp only [bne_iff_ne, ne_eq]
      rintro rfl
      exact noDot (List.mem_reverse.mp mem)]
    simp
  have stemChars : stem.toList ≠ [] := by rwa [ne_eq, String.toList_eq_nil_iff]
  have dropped : (x.toList.reverse ++ '.' :: stem.toList.reverse).drop (x.toList.length + 1) =
      stem.toList.reverse := by
    simpa using @List.drop_left _ (x.toList.reverse ++ ['.']) stem.toList.reverse
  simp [splitName, after, stemChars, dropped]

theorem splitName_eq_some {name stem x : String} (split : splitName name = (stem, some x)) :
    name = stem ++ "." ++ x ∧ stem ≠ "" ∧ '.' ∉ x.toList := by
  unfold splitName at split
  dsimp only at split
  generalize rev : name.toList.reverse = chars at split
  generalize after : chars.takeWhile (· != '.') = taken at split
  split at split
  · cases split
  · rename_i shorter
    split at split
    · cases split
    · rename_i kept
      simp only [Prod.mk.injEq, Option.some.injEq] at split
      obtain ⟨rfl, rfl⟩ := split
      have whole : chars = taken ++ chars.dropWhile (· != '.') := by
        rw [← after, List.takeWhile_append_dropWhile]
      obtain ⟨c, r, rest⟩ : ∃ c r, chars.dropWhile (· != '.') = c :: r := by
        refine List.exists_cons_of_ne_nil fun empty => shorter ?_
        rw [whole, empty]
        simp
      have dot : c = '.' := by
        have := @List.head_dropWhile_not _ (· != '.') chars (by simp [rest])
        simpa [rest] using this
      have dropped : chars.drop (taken.length + 1) = r := by
        rw [whole, rest, dot]
        simp
      have noDot : '.' ∉ taken.reverse := by
        rw [List.mem_reverse, ← after]
        intro mem
        simpa using List.all_eq_true.mp List.all_takeWhile '.' mem
      refine ⟨?_, ?_, by simpa using noDot⟩
      · apply String.toList_inj.mp
        rw [dropped, ← List.reverse_reverse name.toList, rev, whole, rest, dot]
        simp
      · rw [dropped] at kept ⊢
        intro empty
        apply kept
        simpa using congrArg String.toList empty

theorem ofSegment_normal {s name : String} (named : Component.ofSegment s = some (.normal name)) :
    name = s := by
  unfold Component.ofSegment at named
  split at named
  · cases named
  · split at named <;> cases named
    rfl

theorem ofSegment_of_length {s : String} (long : 2 < s.length) :
    Component.ofSegment s = some (.normal s) := by
  have notEmpty : s ≠ "" := by rintro rfl; simp at long
  have notDot : s ≠ "." := by rintro rfl; simp [← String.length_toList] at long
  have notUp : s ≠ ".." := by rintro rfl; simp [← String.length_toList] at long
  simp [Component.ofSegment, notEmpty, notDot, notUp]

namespace LastName

variable {p last name : String} {before : List String}

theorem of_fileName (named : fileName? p = some name) : ∃ last before, LastName p last name before := by
  unfold fileName? at named
  cases split : (trimEnd (segments p)).reverse with
  | nil =>
    obtain ⟨trailing, whole, trivial⟩ := trimEnd_append (segments p)
    have dropped : (segments p).filterMap Component.ofSegment = [] := by
      rw [whole, List.reverse_eq_nil_iff.mp split, List.nil_append]
      exact List.filterMap_eq_nil_iff.mpr fun t mem => ofSegment_eq_none_iff.mpr (trivial t mem)
    rw [components, dropped, List.append_nil] at named
    cases led : lead p with
    | none => simp [led] at named
    | some c =>
      rcases toList_of_lead led with ⟨rfl, -⟩ | ⟨rfl, -⟩ <;> simp [led] at named
  | cons last before =>
    obtain ⟨c, kept⟩ : ∃ c, Component.ofSegment last = some c :=
      Option.ne_none_iff_exists'.mp fun none =>
        absurd (ofSegment_eq_none_iff.mp none) (by simp [isTrivial_of_trimEnd split])
    rw [components_of_split split kept, List.getLast?_append_of_ne_nil _ (by simp)] at named
    cases c with
    | normal n =>
      simp only [List.getLast?_singleton, Option.some.injEq] at named
      exact ⟨last, before, split, named ▸ kept⟩
    | root | current | parent => simp at named

theorem withExtension_eq (ends : LastName p last name before) (ext : String) :
    withExtension p ext = assemble (leadText p)
      (before.reverse ++ [(splitName name).1 ++ (if ext.isEmpty then "" else "." ++ ext)]) := by
  unfold withExtension
  rw [ends.split]
  simp only [ends.named]

theorem withExtension_renamed (ends : LastName p last name before) {stem x ext : String}
    (split : splitName name = (stem, some x)) (long : 1 < ext.length)
    (slashFree : '/' ∉ ext.toList) :
    withExtension p ext = assemble (leadText p) (before.reverse ++ [stem ++ "." ++ ext]) ∧
      Component.ofSegment (stem ++ "." ++ ext) = some (.normal (stem ++ "." ++ ext)) ∧
      '/' ∉ (stem ++ "." ++ ext).toList := by
  obtain ⟨whole, named, -⟩ := splitName_eq_some split
  have notEmpty : ext.isEmpty = false := by
    rw [String.isEmpty_eq_false_iff]
    rintro rfl
    simp at long
  have stemLong : 0 < stem.length := by
    rw [← String.length_toList]
    exact List.length_pos_of_ne_nil (by rwa [ne_eq, String.toList_eq_nil_iff])
  refine ⟨?_, ofSegment_of_length (by simp; omega), ?_⟩
  · rw [ends.withExtension_eq, split, notEmpty, if_neg Bool.false_ne_true, ← String.append_assoc]
  have inSegment : '/' ∉ last.toList := by
    obtain ⟨trailing, segs, -⟩ := ends.segments_eq
    exact slash_not_mem_of_mem_segments (segs ▸ List.mem_append_right _ List.mem_cons_self)
  rw [← ofSegment_normal ends.named, whole] at inSegment
  simp only [String.toList_append, List.mem_append, not_or] at inSegment ⊢
  exact ⟨⟨inSegment.1.1, inSegment.1.2⟩, slashFree⟩

theorem components_withExtension (ends : LastName p last name before) {stem x ext : String}
    (split : splitName name = (stem, some x)) (long : 1 < ext.length)
    (slashFree : '/' ∉ ext.toList) :
    components (withExtension p ext) =
      (lead p).toList ++ before.reverse.filterMap Component.ofSegment ++
        [.normal (stem ++ "." ++ ext)] := by
  obtain ⟨renamed, plain, free⟩ := ends.withExtension_renamed split long slashFree
  rw [renamed]
  exact ends.components_assemble plain free

theorem lead_withExtension (ends : LastName p last name before) {stem x ext : String}
    (split : splitName name = (stem, some x)) (long : 1 < ext.length)
    (slashFree : '/' ∉ ext.toList) : lead (withExtension p ext) = lead p := by
  obtain ⟨renamed, plain, free⟩ := ends.withExtension_renamed split long slashFree
  rw [renamed]
  exact (ends.assemble_spec plain free).1

end LastName

/-! ### Joined paths -/

theorem exists_cons_toList {s : String} (nonempty : s ≠ "") : ∃ c cs, s.toList = c :: cs :=
  List.exists_cons_of_ne_nil (by rwa [ne_eq, String.toList_eq_nil_iff])

theorem lead_append {d e : String} (nonempty : d ≠ "")
    (afterDot : d.toList = ['.'] → ∃ rest, e.toList = '/' :: rest) : lead (d ++ e) = lead d := by
  cases led : lead d with
  | none =>
    obtain ⟨c, cs, text⟩ := exists_cons_toList nonempty
    refine lead_of_toList_plain (by rw [String.toList_append, text, List.cons_append]) ?_ ?_
    · rintro rfl
      rw [lead_of_toList_root text] at led
      cases led
    · rintro rfl
      cases cs with
      | nil =>
        rw [lead_of_toList_current (.inl text)] at led
        cases led
      | cons c' cs =>
        refine ⟨c', cs ++ e.toList, rfl, ?_⟩
        rintro rfl
        rw [lead_of_toList_current (.inr ⟨cs, text⟩)] at led
        cases led
  | some c =>
    rcases toList_of_lead led with ⟨rfl, rest, text⟩ | ⟨rfl, text | ⟨rest, text⟩⟩
    · exact lead_of_toList_root (by rw [String.toList_append, text, List.cons_append])
    · obtain ⟨more, after⟩ := afterDot text
      exact lead_of_toList_current (.inr ⟨more, by rw [String.toList_append, text, after]; rfl⟩)
    · exact lead_of_toList_current
        (.inr ⟨rest ++ e.toList, by rw [String.toList_append, text]; rfl⟩)

theorem body_append {d e : String} (nonempty : d ≠ "") (same : lead (d ++ e) = lead d) :
    body (d ++ e) = body d ++ e.toList := by
  obtain ⟨c, cs, text⟩ := exists_cons_toList nonempty
  unfold body
  rw [same, String.toList_append, text]
  split <;> simp

theorem body_of_lead_none {p : String} (plain : lead p = none) : body p = p.toList := by
  simp [body, plain]

theorem components_append_slash {d rel : String} (nonempty : d ≠ "") (plain : lead rel = none) :
    components (d ++ "/" ++ rel) = components d ++ components rel := by
  have same : lead (d ++ ("/" ++ rel)) = lead d :=
    lead_append nonempty fun _ => ⟨rel.toList, by simp⟩
  have pieces : segments (d ++ ("/" ++ rel)) = segments d ++ segments rel := by
    rw [segments_eq, segments_eq d, segments_eq rel, body_append nonempty same,
      body_of_lead_none plain, String.toList_append]
    simp [List.splitOn_append_cons_self]
  rw [String.append_assoc, components, components, components, same, pieces, plain,
    List.filterMap_append]
  simp

theorem components_empty : components "" = [] := by
  simp [components, segments_empty, Component.ofSegment, lead]

theorem components_join {d rel : String} (plain : lead rel = none) :
    components (join d rel) = components d ++ components rel := by
  unfold join
  split
  · rename_i replaced
    have rooted : rel.toList.head? ≠ some '/' := fun slash => by
      obtain ⟨rest, text⟩ : ∃ rest, rel.toList = '/' :: rest := by
        cases text : rel.toList with
        | nil => simp [text] at slash
        | cons c rest => simp_all
      rw [lead_of_toList_root text] at plain
      cases plain
    simp only [Bool.or_eq_true, beq_iff_eq, rooted, false_or, String.isEmpty_iff] at replaced
    rw [replaced, components_empty, List.nil_append]
  · rename_i kept
    simp only [Bool.or_eq_true, beq_iff_eq, not_or, String.isEmpty_iff] at kept
    split
    · rename_i slash
      obtain ⟨ds, text⟩ := List.getLast?_eq_some_iff.mp (by simpa using slash)
      cases ds with
      | nil =>
        have rooted : (d ++ rel).toList = '/' :: rel.toList := by simp [text]
        have segs : segments (d ++ rel) = segments rel := by
          rw [segments_eq, segments_eq rel, body, lead_of_toList_root rooted, rooted,
            body_of_lead_none plain]
          rfl
        have rootOnly : components d = [.root] := by
          rw [components, lead_of_toList_root text, segments_eq, body, lead_of_toList_root text,
            text]
          simp [Component.ofSegment]
        rw [components, lead_of_toList_root rooted, segs, rootOnly, components, plain]
        simp
      | cons c cs =>
        have split : d = String.ofList (c :: cs) ++ "/" ++ "" :=
          String.toList_inj.mp (by simp [text])
        have nonempty : String.ofList (c :: cs) ≠ "" := by
          rw [ne_eq, ← String.toList_inj]
          simp
        have dirOnly : components d = components (String.ofList (c :: cs)) := by
          rw [split, components_append_slash nonempty rfl, components_empty, List.append_nil]
        have joined : d ++ rel = String.ofList (c :: cs) ++ "/" ++ rel := by
          rw [split, String.append_empty]
        rw [joined, components_append_slash nonempty plain, dirOnly]
    · exact components_append_slash kept.2 plain

/-! ### Paths below a base -/

theorem filterMap_dropComponents (n : Nat) (segs : List String) :
    (dropComponents n segs).filterMap Component.ofSegment =
      (segs.filterMap Component.ofSegment).drop n := by
  fun_induction dropComponents n segs with
  | case1 segs => rfl
  | case2 n => simp
  | case3 n s rest named ih =>
    obtain ⟨c, kept⟩ := Option.isSome_iff_exists.mp named
    rw [ih, List.filterMap_cons_some kept, List.drop_succ_cons]
  | case4 n s rest trivial ih =>
    rw [ih, List.filterMap_cons_none (by simpa using trivial)]

theorem filterMap_dropWhile (segs : List String) :
    (segs.dropWhile isTrivial).filterMap Component.ofSegment =
      segs.filterMap Component.ofSegment := by
  induction segs with
  | nil => rfl
  | cons s rest ih =>
    by_cases trivial : isTrivial s = true
    · rw [List.dropWhile_cons_of_pos trivial, ih,
        List.filterMap_cons_none (ofSegment_eq_none_iff.mpr trivial)]
    · rw [List.dropWhile_cons_of_neg trivial]

theorem filterMap_trimEnd (segs : List String) :
    (trimEnd segs).filterMap Component.ofSegment = segs.filterMap Component.ofSegment := by
  obtain ⟨trailing, whole, trivial⟩ := trimEnd_append segs
  have dropped : trailing.filterMap Component.ofSegment = [] :=
    List.filterMap_eq_nil_iff.mpr fun t mem => ofSegment_eq_none_iff.mpr (trivial t mem)
  conv => rhs; rw [whole]
  rw [List.filterMap_append, dropped, List.append_nil]

theorem mem_of_mem_trimEnd {segs : List String} {s : String} (mem : s ∈ trimEnd segs) :
    s ∈ segs := by
  obtain ⟨trailing, whole, -⟩ := trimEnd_append segs
  rw [whole]
  exact List.mem_append_left _ mem

theorem mem_of_mem_dropComponents {n : Nat} {segs : List String} {s : String}
    (mem : s ∈ dropComponents n segs) : s ∈ segs := by
  fun_induction dropComponents n segs with
  | case1 => exact mem
  | case2 => simp at mem
  | case3 n t rest _ ih => exact List.mem_cons_of_mem t (ih mem)
  | case4 n t rest _ ih => exact List.mem_cons_of_mem t (ih mem)

theorem head_trimBoth {segs : List String} {h : String} (first : (trimBoth segs).head? = some h) :
    isTrivial h = false := by
  obtain ⟨trailing, whole, -⟩ := trimEnd_append (segs.dropWhile isTrivial)
  obtain ⟨rest, opens⟩ : ∃ rest, segs.dropWhile isTrivial = h :: rest := by
    rw [whole, ← trimBoth] at ⊢
    obtain ⟨rest, kept⟩ := List.head?_eq_some_iff.mp first
    exact ⟨rest ++ trailing, by rw [kept, List.cons_append]⟩
  have := @List.head_dropWhile_not _ isTrivial segs (by simp [opens])
  simpa [opens] using this

theorem leadText_empty : leadText "" = "" := rfl

theorem components_stripPrefix {p base : String}
    (below : components base <+: components p)
    (longer : (components base).length < (components p).length)
    (rooted : components base = [] → lead p = none) :
    ∃ rel, stripPrefix? p base = some rel ∧ lead rel = none ∧
      components rel = (components p).drop (components base).length := by
  have nonempty : p ≠ "" := by
    rintro rfl
    rw [components_empty] at longer
    exact absurd longer (Nat.not_lt_zero _)
  have isPrefix : (components base).isPrefixOf (components p) = true :=
    List.isPrefixOf_iff_prefix.mpr below
  unfold stripPrefix?
  dsimp only
  rw [if_pos isPrefix]
  split
  · -- an empty base: the path is assembled again from its trimmed segments
    rename_i empty
    have bcNil : components base = [] := List.isEmpty_iff.mp empty
    have plain := rooted bcNil
    obtain ⟨trailing, whole, -⟩ := trimEnd_append (segments p)
    have kept : trimEnd (segments p) ≠ [] := by
      intro none
      have counted := filterMap_trimEnd (segments p)
      rw [none, List.filterMap_nil] at counted
      rw [bcNil, components, plain, ← counted] at longer
      exact absurd longer (Nat.lt_irrefl 0)
    have fits : Fits (lead p) (trimEnd (segments p)) := by
      have whole' := segments_fit nonempty
      rw [plain] at whole' ⊢
      intro h first
      obtain ⟨rest, opens⟩ := List.head?_eq_some_iff.mp first
      exact whole' h (by rw [whole, opens]; rfl)
    have slashFree : ∀ s ∈ trimEnd (segments p), '/' ∉ s.toList :=
      fun s mem => slash_not_mem_of_mem_segments (mem_of_mem_trimEnd mem)
    obtain ⟨led, segs⟩ := segments_assemble slashFree kept fits
    refine ⟨_, rfl, led.trans plain, ?_⟩
    rw [components, led, segs, filterMap_trimEnd, bcNil, components]
    rfl
  · -- a base with components: the segments after them, trimmed, without a lead
    rename_i notEmpty
    have bcCons : components base ≠ [] := fun none => notEmpty (List.isEmpty_iff.mpr none)
    set k := if (lead p).isSome then (components base).length - 1 else (components base).length
      with hk
    set T := trimBoth (dropComponents k (segments p)) with hT
    have counted : T.filterMap Component.ofSegment =
        (components p).drop (components base).length := by
      rw [hT, trimBoth, filterMap_trimEnd, filterMap_dropWhile, filterMap_dropComponents]
      cases led : lead p with
      | none => simp [hk, led, components]
      | some x =>
        obtain ⟨c, cs, split⟩ := List.exists_cons_of_ne_nil bcCons
        have compP : components p = x :: (segments p).filterMap Component.ofSegment := by
          rw [components, led]
          rfl
        rw [compP]
        simp only [hk, led, Option.isSome_some, if_true]
        rw [split]
        simp
    have tNonempty : T ≠ [] := by
      intro none
      rw [none, List.filterMap_nil] at counted
      exact absurd (List.drop_eq_nil_iff.mp counted.symm) (Nat.not_le.mpr longer)
    have fits : Fits (lead "") T := by
      intro h first
      have kept := head_trimBoth first
      simp only [isTrivial, Bool.or_eq_false_iff, beq_eq_false_iff_ne] at kept
      exact kept
    have slashFree : ∀ s ∈ T, '/' ∉ s.toList := fun s mem =>
      slash_not_mem_of_mem_segments
        (mem_of_mem_dropComponents (List.dropWhile_subset _ (mem_of_mem_trimEnd mem)))
    obtain ⟨led, segs⟩ := @segments_assemble "" T slashFree tNonempty fits
    rw [leadText_empty, assemble, String.empty_append] at led segs
    have noLead : lead "" = none := rfl
    rw [noLead] at led
    refine ⟨_, rfl, led, ?_⟩
    rw [components, led, segs]
    simpa using counted

end JsxVNode.Path
