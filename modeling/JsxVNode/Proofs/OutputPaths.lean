import JsxVNode.Proofs.PathComponents
import JsxVNode.Cli.Sources
/-!
Where the outputs of markup sources go. Renaming a `jsx` or `tsx` file changes only the
extension of its last component, to `js` or `ts`; below an output directory, the components of
a source below its root follow the directory's. So the outputs of two markup sources differ
unless the sources are the same path, provided that with an output directory they share a root,
and no output is itself a markup source (`outputs_apart`).

Neither proviso can go. A file named directly is taken whatever its extension, and a `js` file
is its own output; two roots mirrored into one directory give their files the same outputs
(`outputs_collide`).
-/
namespace JsxVNode

open JsxVNode.Path

/-- A source below its root: the root's components begin the path's, and are fewer; a root with
no components holds only paths without a lead. -/
def SourceFile.Below (file : SourceFile) : Prop :=
  components file.root <+: components file.path ∧
    (components file.root).length < (components file.path).length ∧
    (components file.root = [] → lead file.path = none)

instance : DecidablePred SourceFile.Below := fun _ => inferInstanceAs (Decidable (_ ∧ _ ∧ _))

namespace Sources

theorem isSourceFile_congr {p q : String} (same : components p = components q) :
    isSourceFile p = isSourceFile q := by
  simp [isSourceFile, extension?, fileName?, same]

theorem extension?_of_components {p stem e : String} {init : List Component}
    (comps : components p = init ++ [Component.normal (stem ++ "." ++ e)]) (named : stem ≠ "")
    (noDot : '.' ∉ e.toList) : extension? p = some e := by
  simp [extension?, fileName?, comps, splitName_append named noDot]

theorem not_isSourceFile {p stem e : String} {init : List Component}
    (comps : components p = init ++ [Component.normal (stem ++ "." ++ e)]) (named : stem ≠ "")
    (output : e = "js" ∨ e = "ts") : isSourceFile p = false := by
  have noDot : '.' ∉ e.toList := by rcases output with rfl | rfl <;> simp
  simp only [isSourceFile, extension?_of_components comps named noDot]
  rcases output with rfl | rfl <;> rfl

theorem outputExtension_cases (p : String) : outputExtension p = "js" ∨ outputExtension p = "ts" := by
  unfold outputExtension
  split
  · exact .inr rfl
  · exact .inl rfl

theorem outputExtension_noDot (p : String) : '.' ∉ (outputExtension p).toList := by
  rcases outputExtension_cases p with same | same <;> rw [same] <;> decide

/-- A markup source renamed: its components and those of its output, which differ only in the
extension of the last. -/
structure Renamed (p : String) (init : List Component) (stem x : String) : Prop where
  source : components p = init ++ [Component.normal (stem ++ "." ++ x)]
  output : components (withExtension p (outputExtension p)) =
    init ++ [Component.normal (stem ++ "." ++ outputExtension p)]
  lead : lead (withExtension p (outputExtension p)) = lead p
  named : stem ≠ ""
  markup : x = "jsx" ∨ x = "tsx"
  extension : outputExtension p = if x = "tsx" then "ts" else "js"

theorem renamed_of_isSourceFile {p : String} (markup : isSourceFile p = true) :
    ∃ init stem x, Renamed p init stem x := by
  unfold isSourceFile extension? at markup
  cases file : fileName? p with
  | none => simp [file] at markup
  | some name =>
    cases split : splitName name with
    | mk stem x =>
      cases x with
      | none => simp [file, split] at markup
      | some x =>
        have kind : x = "jsx" ∨ x = "tsx" := by simpa [file, split, extensions] using markup
        obtain ⟨last, before, ends⟩ := LastName.of_fileName file
        obtain ⟨whole, named, noDot⟩ := splitName_eq_some split
        have extension : outputExtension p = if x = "tsx" then "ts" else "js" := by
          simp [outputExtension, extension?, file, split]
        have long : 1 < (outputExtension p).length := by
          rcases outputExtension_cases p with same | same <;> rw [same] <;> decide
        have slashFree : '/' ∉ (outputExtension p).toList := by
          rcases outputExtension_cases p with same | same <;> rw [same] <;> decide
        refine ⟨(lead p).toList ++ before.reverse.filterMap Component.ofSegment, stem, x,
          ⟨?_, ends.components_withExtension split long slashFree,
            ends.lead_withExtension split long slashFree, named, kind, extension⟩⟩
        rw [ends.components_eq, whole]

namespace Renamed

variable {p q : String} {init init' : List Component} {stem stem' x x' : String}

theorem source_eq (r : Renamed p init stem x) (r' : Renamed q init' stem' x')
    (same : init ++ [Component.normal (stem ++ "." ++ outputExtension p)] =
      init' ++ [Component.normal (stem' ++ "." ++ outputExtension q)]) :
    components p = components q := by
  obtain ⟨inits, lasts⟩ := List.append_inj' same rfl
  simp only [List.cons.injEq, Component.normal.injEq, and_true] at lasts
  have split := congrArg splitName lasts
  rw [splitName_append r.named (outputExtension_noDot p),
    splitName_append r'.named (outputExtension_noDot q),
    Prod.mk.injEq, Option.some.injEq] at split
  obtain ⟨rfl, extensions⟩ := split
  have kinds : x = x' := by
    rw [r.extension, r'.extension] at extensions
    rcases r.markup with rfl | rfl <;> rcases r'.markup with rfl | rfl <;> simp_all
  rw [r.source, r'.source, inits, kinds]

theorem root_prefix {file : SourceFile} (r : Renamed file.path init stem x) (below : file.Below) :
    components file.root <+: init := by
  obtain ⟨prefixed, shorter, -⟩ := below
  rw [r.source] at prefixed shorter
  rcases List.prefix_concat_iff.mp prefixed with whole | part
  · rw [whole] at shorter
    exact absurd shorter (Nat.lt_irrefl _)
  · exact part

theorem take_output {file : SourceFile} (r : Renamed file.path init stem x) (below : file.Below) :
    (init ++ [Component.normal (stem ++ "." ++ outputExtension file.path)]).take
      (components file.root).length = components file.root := by
  have within := r.root_prefix below
  rw [List.take_append_of_le_length within.length_le]
  exact (List.prefix_iff_eq_take.mp within).symm

theorem components_outputPath_some {file : SourceFile} (r : Renamed file.path init stem x)
    (below : file.Below) (dir : String) :
    components (outputPath file (some dir)) =
      components dir ++ (init ++ [Component.normal (stem ++ "." ++ outputExtension file.path)]).drop
        (components file.root).length := by
  have within := r.root_prefix below
  obtain ⟨-, shorter, rooted⟩ := below
  rw [r.source] at shorter
  obtain ⟨rel, stripped, plain, comps⟩ :=
    @components_stripPrefix (withExtension file.path (outputExtension file.path)) file.root
      (by rw [r.output]; exact within.trans (List.prefix_append _ _))
      (by rw [r.output]; simpa using shorter)
      (fun empty => r.lead.trans (rooted empty))
  simp only [outputPath, stripped]
  rw [components_join plain, comps, r.output]

end Renamed

theorem same_iff {a b : String} : Path.same a b = true ↔ components a = components b := by
  simp [Path.same]

/-- The outputs of two markup sources are the same path only when the sources are, provided that
with an output directory the two share a root and lie below it; and no output is a markup
source. -/
theorem outputs_apart {f g : SourceFile} {outDir : Option String}
    (markup : isSourceFile f.path = true ∧ isSourceFile g.path = true)
    (rooted : ∀ dir, outDir = some dir → f.root = g.root ∧ f.Below ∧ g.Below) :
    (Path.same (outputPath f outDir) (outputPath g outDir) = true →
        Path.same f.path g.path = true) ∧
      Path.same (outputPath f outDir) g.path = false := by
  obtain ⟨init, stem, x, r⟩ := renamed_of_isSourceFile markup.1
  obtain ⟨init', stem', x', r'⟩ := renamed_of_isSourceFile markup.2
  have ends : ∃ pre, components (outputPath f outDir) =
      pre ++ [Component.normal (stem ++ "." ++ outputExtension f.path)] := by
    cases outDir with
    | none => exact ⟨init, r.output⟩
    | some dir =>
      obtain ⟨-, below, -⟩ := rooted dir rfl
      have shorter := below.2.1
      rw [r.source, List.length_append, List.length_singleton] at shorter
      refine ⟨components dir ++ init.drop (components f.root).length, ?_⟩
      rw [r.components_outputPath_some below, List.drop_append_of_le_length (by omega),
        List.append_assoc]
  have notSource : Path.same (outputPath f outDir) g.path = false := by
    rw [Bool.eq_false_iff, ne_eq, same_iff]
    intro same
    obtain ⟨pre, comps⟩ := ends
    rw [← isSourceFile_congr same,
      not_isSourceFile comps r.named (outputExtension_cases f.path)] at markup
    exact Bool.false_ne_true markup.2
  refine ⟨fun same => ?_, notSource⟩
  rw [same_iff] at same ⊢
  cases outDir with
  | none => exact r.source_eq r' (r.output ▸ r'.output ▸ same)
  | some dir =>
    obtain ⟨sameRoot, below, below'⟩ := rooted dir rfl
    rw [r.components_outputPath_some below, r'.components_outputPath_some below', sameRoot,
      List.append_cancel_left_eq] at same
    have before := r.take_output below
    have before' := r'.take_output below'
    rw [sameRoot] at before
    refine r.source_eq r' ?_
    calc init ++ [Component.normal (stem ++ "." ++ outputExtension f.path)]
        = (init ++ [Component.normal (stem ++ "." ++ outputExtension f.path)]).take
              (components g.root).length ++
            (init ++ [Component.normal (stem ++ "." ++ outputExtension f.path)]).drop
              (components g.root).length := (List.take_append_drop _ _).symm
      _ = (init' ++ [Component.normal (stem' ++ "." ++ outputExtension g.path)]).take
              (components g.root).length ++
            (init' ++ [Component.normal (stem' ++ "." ++ outputExtension g.path)]).drop
              (components g.root).length := by rw [before, before', same]
      _ = init' ++ [Component.normal (stem' ++ "." ++ outputExtension g.path)] :=
          List.take_append_drop _ _

theorem outputs_apart_below_one_root :
    (isSourceFile "src/a.jsx" = true ∧ isSourceFile "src/lib/a.tsx" = true) ∧
      (∀ dir, some "out" = some dir →
        "src" = "src" ∧ SourceFile.Below ⟨"src/a.jsx", "src"⟩ ∧
          SourceFile.Below ⟨"src/lib/a.tsx", "src"⟩) ∧
      ((Path.same (outputPath ⟨"src/a.jsx", "src"⟩ (some "out"))
          (outputPath ⟨"src/lib/a.tsx", "src"⟩ (some "out")) = true →
          Path.same "src/a.jsx" "src/lib/a.tsx" = true) ∧
        Path.same (outputPath ⟨"src/a.jsx", "src"⟩ (some "out")) "src/lib/a.tsx" = false) := by
  have markup : isSourceFile "src/a.jsx" = true ∧ isSourceFile "src/lib/a.tsx" = true := by
    decide +kernel
  have rooted : ∀ dir, some "out" = some dir →
      "src" = "src" ∧ SourceFile.Below ⟨"src/a.jsx", "src"⟩ ∧
        SourceFile.Below ⟨"src/lib/a.tsx", "src"⟩ := by
    rintro dir -
    exact ⟨rfl, by decide +kernel, by decide +kernel⟩
  exact ⟨markup, rooted,
    @outputs_apart ⟨"src/a.jsx", "src"⟩ ⟨"src/lib/a.tsx", "src"⟩ (some "out") markup rooted⟩

/-- A script named directly is its own output, and files of one name below two roots mirrored
into one directory share theirs. -/
theorem outputs_collide :
    outputPath ⟨"a.js", (Path.parent? "a.js").getD ""⟩ none = "a.js" ∧
      outputPath ⟨"p/x.jsx", "p"⟩ (some "d") = "d/x.js" ∧
      outputPath ⟨"q/x.jsx", "q"⟩ (some "d") = "d/x.js" := by
  decide +kernel

end Sources

end JsxVNode
