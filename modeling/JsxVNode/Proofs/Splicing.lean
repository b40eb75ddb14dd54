import JsxVNode.Transform
import JsxVNode.Proofs.Frame
/-!
Splicing compiled markup into its source file. `Src.splice` is the source with each span
replaced, in order, by a text. Compiling the sites of a file is compiling their trees one after
another on one state and splicing the results in; the declarations inserted at the declaration
offset of the source land in the source's own text, before every site.
-/
namespace JsxVNode

namespace Source

def Src.splice (src : Src) : Nat → List (Site × String) → String
  | cursor, [] => src.slice cursor src.size
  | cursor, (site, text) :: rest => src.slice cursor site.start ++ text ++ src.splice site.stop rest

namespace Src

variable (src : Src)

theorem slice_append {a b c : Nat} (ab : a ≤ b) (bc : b ≤ c) :
    src.slice a b ++ src.slice b c = src.slice a c := by
  simp only [Src.slice, ← String.ofList_append, ← Array.toList_append,
    Array.extract_append_extract, Nat.min_eq_left ab, Nat.max_eq_right bc]

theorem length_slice (a b : Nat) : (src.slice a b).length = min b src.size - a := by
  simp only [Src.slice, String.length_ofList, Array.toList_extract, List.length_take,
    List.length_drop, Array.length_toList]
  omega

theorem splice_split {cursor off : Nat} (pieces : List (Site × String)) (early : cursor ≤ off)
    (inside : off ≤ src.size) (before : ∀ p ∈ pieces, off ≤ p.1.start) :
    src.splice cursor pieces = src.slice cursor off ++ src.splice off pieces := by
  cases pieces with
  | nil => simp only [splice, slice_append src early inside]
  | cons p rest =>
    obtain ⟨site, text⟩ := p
    have first : off ≤ site.start := before (site, text) List.mem_cons_self
    simp only [splice, ← slice_append src early first, String.append_assoc]

end Src

end Source

namespace Compile

open Source

theorem lastStop_cons (cursor : Nat) (site : Site) (rest : List Site) :
    (((site :: rest).getLast?.map (·.stop)).getD cursor) =
      ((rest.getLast?.map (·.stop)).getD site.stop) := by
  cases h : rest.getLast? <;> simp [List.getLast?_cons, h]

theorem run_sites (src : Src) (o : Options) (sites : List Site) :
    ∀ (cursor : Nat) (s : Context), s.options = o →
      (∀ e s', (sites.mapM fun site => Compile.tree site.tree site.scope).run s = .error e s' →
        (Compile.sites src cursor sites).run s = .error e s') ∧
      (∀ codes s', (sites.mapM fun site => Compile.tree site.tree site.scope).run s = .ok codes s' →
        ∃ text, (Compile.sites src cursor sites).run s = .ok text s' ∧
          text ++ src.slice ((sites.getLast?.map (·.stop)).getD cursor) src.size =
            src.splice cursor (sites.zip (codes.map (Code.render o)))) := by
  induction sites with
  | nil =>
    intro cursor s _
    refine ⟨fun e s' run => (by cases run), fun codes s' run => ?_⟩
    cases run
    exact ⟨"", rfl, by simp [Src.splice]⟩
  | cons site rest ih =>
    intro cursor s opts
    cases first : (Compile.tree site.tree site.scope).run s with
    | error e s₁ =>
      refine ⟨fun e' s' run => ?_, fun codes s' run => ?_⟩
      · simp only [List.mapM_cons, EStateM.run_bind, first] at run
        cases run
        simp only [Compile.sites, EStateM.run_bind, first]
      · simp only [List.mapM_cons, EStateM.run_bind, first] at run
        cases run
    | ok c s₁ =>
      have kept : s₁.options = o := by
        have grown := (tree_grows site.tree site.scope).run s
        rw [first, final_ok] at grown
        rw [grown.options, opts]
      obtain ⟨failing, succeeding⟩ := ih site.stop s₁ kept
      cases more : (rest.mapM fun site => Compile.tree site.tree site.scope).run s₁ with
      | error e s₂ =>
        have whole : ((site :: rest).mapM fun site => Compile.tree site.tree site.scope).run s =
            .error e s₂ := by
          simp only [List.mapM_cons, EStateM.run_bind, first, more]
        refine ⟨fun e' s' run => ?_, fun codes s' run => ?_⟩
        · rw [whole] at run
          cases run
          simp only [Compile.sites, EStateM.run_bind, first, run_options, failing e s₂ more]
        · rw [whole] at run
          cases run
      | ok cs s₂ =>
        have whole : ((site :: rest).mapM fun site => Compile.tree site.tree site.scope).run s =
            .ok (c :: cs) s₂ := by
          simp only [List.mapM_cons, EStateM.run_bind, first, more, EStateM.run_pure]
        refine ⟨fun e' s' run => ?_, fun codes s' run => ?_⟩
        · rw [whole] at run
          cases run
        · rw [whole] at run
          cases run
          obtain ⟨text, sitesRun, spliced⟩ := succeeding cs s₂ more
          refine ⟨src.slice cursor site.start ++ c.render o ++ text, ?_, ?_⟩
          · simp only [Compile.sites, EStateM.run_bind, first, run_options, sitesRun, kept]
            rfl
          · rw [lastStop_cons, String.append_assoc, spliced]
            rfl

end Compile

open Source

theorem insertPreamble_splice (src : Src) (preamble : String) {off : Nat}
    (pieces : List (Site × String)) (inside : off ≤ src.size) (before : ∀ p ∈ pieces, off ≤ p.1.start) :
    insertPreamble (src.splice 0 pieces) preamble off =
      if preamble.isEmpty then src.splice 0 pieces
      else if off = 0 then preamble ++ "\n" ++ src.splice 0 pieces
      else src.slice 0 off ++ "\n" ++ preamble ++ src.splice off pieces := by
  have split := src.splice_split pieces (Nat.zero_le off) inside before
  have length : (src.slice 0 off).toList.length = off := by
    rw [String.length_toList, src.length_slice, Nat.min_eq_left inside, Nat.sub_zero]
  unfold insertPreamble
  by_cases empty : preamble.isEmpty
  · simp only [empty, if_true]
  · by_cases zero : off = 0
    · simp [empty, zero]
    · simp only [empty, zero, beq_iff_eq]
      rw [split, String.toList_append, List.take_left' length, List.drop_left' length,
        String.ofList_toList, String.ofList_toList]

/-! ### The three outcomes of a file transform -/

section Outcomes
variable {source file : String} {o : Options} {parsed : Parsed}

abbrev compiledSites (o : Options) (parsed : Parsed) :
    EStateM.Result CompileError Context (List Code) :=
  (parsed.sites.mapM fun site => Compile.tree site.tree site.scope).run
    ((Context.ofOptions o).bind parsed.imports)

theorem parse_error_file {e : CompileError} (fails : parse source file = .error e) :
    e.file = file ∧ ∃ message, e.fault = .unparsable message := by
  unfold parse at fails
  dsimp only at fails
  -- every error of a reading is one of its diagnostics, placed in the file
  split at fails
  · split at fails
    · cases fails
      exact ⟨rfl, _, rfl⟩
    · cases fails
  · cases fails
    exact ⟨rfl, _, rfl⟩

theorem transform_of_unparsable {e : CompileError} (fails : parse source file = .error e) :
    transform source file o = .error e := by
  simp only [transform, fails, bind, Except.bind]

theorem transform_without_sites (parses : parse source file = .ok parsed)
    (empty : parsed.sites = []) : transform source file o = .ok ⟨source, 0, [], []⟩ := by
  simp only [transform, parses, bind, Except.bind, List.isEmpty_iff, empty, if_true]
  rfl

theorem transform_of_failure (parses : parse source file = .ok parsed) (present : parsed.sites ≠ [])
    {e : CompileError} {s' : Context} (run : compiledSites o parsed = .error e s') :
    transform source file o = .error (e.inFile file) := by
  have failing := (Compile.run_sites source.toList.toArray o parsed.sites 0
    ((Context.ofOptions o).bind parsed.imports) rfl).1 e s' run
  simp only [transform, parses, bind, Except.bind, List.isEmpty_iff, present, if_false, failing]
  rfl

theorem transform_of_success (parses : parse source file = .ok parsed) (present : parsed.sites ≠ [])
    {codes : List Code} {final : Context} (run : compiledSites o parsed = .ok codes final) :
    transform source file o =
      .ok { code := insertPreamble (Src.splice source.toList.toArray 0
                (parsed.sites.zip (codes.map (Code.render o))))
              final.declarations.preamble parsed.declarationOffset
            sites := parsed.sites.length
            blueprints := final.declarations.blueprints
            helpers := final.declarations.usedHelpers } := by
  obtain ⟨text, sitesRun, spliced⟩ := (Compile.run_sites source.toList.toArray o parsed.sites 0
    ((Context.ofOptions o).bind parsed.imports) rfl).2 codes final run
  simp only [transform, parses, bind, Except.bind, List.isEmpty_iff, present, if_false, sitesRun]
  rw [List.size_toArray, ← spliced]
  rfl

end Outcomes

/-- The whole file transform. A source that does not read fails with the reader's error, which
names the file. For a source that reads with its sites after the declaration offset: a source
without markup comes back as it is; otherwise the trees of the sites are compiled in order on one
state, the first failure is the transform's, its file set, and else the code is the source with
each site replaced by its compiled text and the declarations inserted at the offset. -/
theorem transform_rewrites_only_sites (source file : String) (o : Options) :
    (∀ e, parse source file = .error e →
      transform source file o = .error e ∧ e.file = file ∧ ∃ message, e.fault = .unparsable message) ∧
    ∀ parsed, parse source file = .ok parsed →
      (∀ site ∈ parsed.sites, parsed.declarationOffset ≤ site.start ∧ site.start ≤ source.length) →
      transform source file o =
        if parsed.sites = [] then .ok ⟨source, 0, [], []⟩
        else
          match (parsed.sites.mapM fun site => Compile.tree site.tree site.scope).run
              ((Context.ofOptions o).bind parsed.imports) with
          | .error e _ => .error (e.inFile file)
          | .ok codes final =>
            let src : Src := source.toList.toArray
            let pieces := parsed.sites.zip (codes.map (Code.render o))
            let preamble := final.declarations.preamble
            let off := parsed.declarationOffset
            .ok { code := if preamble.isEmpty then src.splice 0 pieces
                    else if off = 0 then preamble ++ "\n" ++ src.splice 0 pieces
                    else src.slice 0 off ++ "\n" ++ preamble ++ src.splice off pieces
                  sites := parsed.sites.length
                  blueprints := final.declarations.blueprints
                  helpers := final.declarations.usedHelpers } := by
  refine ⟨fun e fails => ⟨transform_of_unparsable fails, parse_error_file fails⟩,
    fun parsed parses after => ?_⟩
  by_cases empty : parsed.sites = []
  · rw [if_pos empty, transform_without_sites parses empty]
  · rw [if_neg empty]
    have inside : parsed.declarationOffset ≤ source.toList.toArray.size := by
      obtain ⟨site, mem⟩ := List.exists_mem_of_ne_nil _ empty
      have bounds := after site mem
      simp only [List.size_toArray, String.length_toList]
      omega
    cases run : (parsed.sites.mapM fun site => Compile.tree site.tree site.scope).run
        ((Context.ofOptions o).bind parsed.imports) with
    | error e s' =>
      rw [transform_of_failure parses empty run]
    | ok codes final =>
      have before : ∀ p ∈ parsed.sites.zip (codes.map (Code.render o)),
          parsed.declarationOffset ≤ p.1.start :=
        fun p mem => (after p.1 (List.of_mem_zip mem).1).1
      rw [transform_of_success parses empty run, insertPreamble_splice _ _ _ inside before]

theorem transform_rewrites_only_sites_element :
    (∃ e, parse "x = <a>;" "a.jsx" = .error e ∧
      (transform "x = <a>;" "a.jsx" {} = .error e ∧ e.file = "a.jsx" ∧
        ∃ message, e.fault = .unparsable message)) ∧
    ∃ parsed, parse "x = <a/>;" "a.jsx" = .ok parsed ∧ parsed.sites.length = 1 ∧
      (∀ site ∈ parsed.sites,
        parsed.declarationOffset ≤ site.start ∧ site.start ≤ "x = <a/>;".length) ∧
      transform "x = <a/>;" "a.jsx" {} =
        if parsed.sites = [] then .ok ⟨"x = <a/>;", 0, [], []⟩
        else
          match (parsed.sites.mapM fun site => Compile.tree site.tree site.scope).run
              ((Context.ofOptions {}).bind parsed.imports) with
          | .error e _ => .error (e.inFile "a.jsx")
          | .ok codes final =>
            let src : Src := "x = <a/>;".toList.toArray
            let pieces := parsed.sites.zip (codes.map (Code.render {}))
            let preamble := final.declarations.preamble
            let off := parsed.declarationOffset
            .ok { code := if preamble.isEmpty then src.splice 0 pieces
                    else if off = 0 then preamble ++ "\n" ++ src.splice 0 pieces
                    else src.slice 0 off ++ "\n" ++ preamble ++ src.splice off pieces
                  sites := parsed.sites.length
                  blueprints := final.declarations.blueprints
                  helpers := final.declarations.usedHelpers } := by
  have unread : (parse "x = <a>;" "a.jsx").toOption.isNone = true := by decide +kernel
  have read : (match parse "x = <a/>;" "a.jsx" with
      | .ok p => p.sites.length == 1 &&
          p.sites.all fun site => p.declarationOffset ≤ site.start && site.start ≤ "x = <a/>;".length
      | .error _ => false) = true := by
    decide +kernel
  obtain ⟨failure, success⟩ := transform_rewrites_only_sites "x = <a>;" "a.jsx" {}
  obtain ⟨-, success⟩ := transform_rewrites_only_sites "x = <a/>;" "a.jsx" {}
  refine ⟨?_, ?_⟩
  · cases fails : parse "x = <a>;" "a.jsx" with
    | error e => exact ⟨e, rfl, failure e fails⟩
    | ok p => simp [fails, Except.toOption] at unread
  · split at read
    · rename_i parsed parses
      simp only [Bool.and_eq_true, beq_iff_eq, List.all_eq_true, decide_eq_true_eq] at read
      obtain ⟨one, after⟩ := read
      exact ⟨parsed, parses, one, after, success parsed parses after⟩
    · cases read

end JsxVNode
