import JsxVNode.Emit
/-!
Code with template parameters. A template body holds parameters `v0, v1, …` where a call passes
its values; `subst` replaces each parameter by code, and `fill` replaces `vᵢ` by the `i`-th value
of a call. `gather` reads what a function picks out of every node of the code in printed order:
the parameters, the helpers named, the blueprints referenced.
-/
namespace JsxVNode.Code

mutual
def subst (σ : Nat → Code) : Code → Code
  | .text s => .text s
  | .source s => .source s
  | .helper h => .helper h
  | .call callee args => .call (subst σ callee) (substList σ args)
  | .array items => .array (substList σ items)
  | .object entries => .object (substList σ entries)
  | .entry key value => .entry key (subst σ value)
  | .spread value => .spread (subst σ value)
  | .expr parts => .expr (substList σ parts)
  | .param i => σ i
  | .cached id skeleton => .cached id (subst σ skeleton)
  | .template id args => .template id (substList σ args)
  | .paren code => .paren (subst σ code)

def substList (σ : Nat → Code) : List Code → List Code
  | [] => []
  | c :: rest => subst σ c :: substList σ rest
end

mutual
def gather {β : Type} (f : Code → List β) : Code → List β
  | c@(.text _) | c@(.source _) | c@(.helper _) | c@(.param _) => f c
  | c@(.call callee args) => f c ++ gather f callee ++ gatherList f args
  | c@(.array items) => f c ++ gatherList f items
  | c@(.object entries) => f c ++ gatherList f entries
  | c@(.entry _ value) => f c ++ gather f value
  | c@(.spread value) => f c ++ gather f value
  | c@(.expr parts) => f c ++ gatherList f parts
  | c@(.cached _ skeleton) => f c ++ gather f skeleton
  | c@(.template _ args) => f c ++ gatherList f args
  | c@(.paren code) => f c ++ gather f code

def gatherList {β : Type} (f : Code → List β) : List Code → List β
  | [] => []
  | c :: rest => gather f c ++ gatherList f rest
end

def paramAt : Code → List Nat
  | .param i => [i]
  | _ => []

def params (c : Code) : List Nat := gather paramAt c

def fill (args : List Code) (c : Code) : Code := c.subst fun i => args.getD i (.param i)

@[simp] theorem substList_eq_map (σ : Nat → Code) (cs : List Code) :
    substList σ cs = cs.map (subst σ) := by
  induction cs with
  | nil => simp [substList]
  | cons c rest ih => simp [substList, ih]

@[simp] theorem gatherList_eq_flatMap {β : Type} (f : Code → List β) (cs : List Code) :
    gatherList f cs = cs.flatMap (gather f) := by
  induction cs with
  | nil => simp [gatherList]
  | cons c rest ih => simp [gatherList, ih]

section Params
variable (cs : List Code) (c : Code)

@[simp] theorem params_param (i : Nat) : (Code.param i).params = [i] := rfl
@[simp] theorem params_text (s : String) : (Code.text s).params = [] := rfl
@[simp] theorem params_source (s : String) : (Code.source s).params = [] := rfl
@[simp] theorem params_helper (h : Helper) : (Code.helper h).params = [] := rfl

@[simp] theorem params_call : (Code.call c cs).params = c.params ++ cs.flatMap params := by
  show paramAt _ ++ gather paramAt c ++ gatherList paramAt cs = _
  rw [gatherList_eq_flatMap]; rfl
@[simp] theorem params_array : (Code.array cs).params = cs.flatMap params := by
  show paramAt _ ++ gatherList paramAt cs = _
  rw [gatherList_eq_flatMap]; rfl
@[simp] theorem params_object : (Code.object cs).params = cs.flatMap params := by
  show paramAt _ ++ gatherList paramAt cs = _
  rw [gatherList_eq_flatMap]; rfl
@[simp] theorem params_expr : (Code.expr cs).params = cs.flatMap params := by
  show paramAt _ ++ gatherList paramAt cs = _
  rw [gatherList_eq_flatMap]; rfl
@[simp] theorem params_template (id : Nat) : (Code.template id cs).params = cs.flatMap params := by
  show paramAt _ ++ gatherList paramAt cs = _
  rw [gatherList_eq_flatMap]; rfl
@[simp] theorem params_entry (key : String) : (Code.entry key c).params = c.params := rfl
@[simp] theorem params_spread : (Code.spread c).params = c.params := rfl
@[simp] theorem params_cached (id : Nat) : (Code.cached id c).params = c.params := rfl
@[simp] theorem params_paren : (Code.paren c).params = c.params := rfl

end Params

mutual
/-- Substitutions that agree on the parameters of the code agree on the code. -/
theorem subst_congr {σ τ : Nat → Code} :
    ∀ (c : Code), (∀ i ∈ c.params, σ i = τ i) → c.subst σ = c.subst τ
  | .text _, _ | .source _, _ | .helper _, _ => rfl
  | .param i, h => h i (by simp)
  | .call callee args, h => by
    simp only [params, gather, List.mem_append] at h
    simp only [subst, substList_eq_map]
    rw [subst_congr callee fun i hi => h i (.inl (.inr hi)),
      substList_congr args fun i hi => h i (.inr (by simpa [params] using hi))]
  | .array cs, h | .object cs, h | .expr cs, h | .template _ cs, h => by
    simp only [params, gather, List.mem_append] at h
    simp only [subst, substList_eq_map]
    rw [substList_congr cs fun i hi => h i (.inr (by simpa [params] using hi))]
  | .entry _ c, h | .spread c, h | .cached _ c, h | .paren c, h => by
    simp only [params, gather, List.mem_append] at h
    simp only [subst]
    rw [subst_congr c fun i hi => h i (.inr hi)]

theorem substList_congr {σ τ : Nat → Code} :
    ∀ (cs : List Code), (∀ i ∈ cs.flatMap params, σ i = τ i) → cs.map (subst σ) = cs.map (subst τ)
  | [], _ => rfl
  | c :: rest, h => by
    simp only [List.flatMap_cons, List.mem_append] at h
    simp only [List.map_cons]
    rw [subst_congr c fun i hi => h i (.inl hi), substList_congr rest fun i hi => h i (.inr hi)]
end

mutual
@[simp] theorem subst_param : ∀ (c : Code), c.subst .param = c
  | .text _ | .source _ | .helper _ | .param _ => rfl
  | .call callee args => by simp only [subst, substList_eq_map, subst_param callee, substList_param args]
  | .array cs | .object cs | .expr cs | .template _ cs => by
    simp only [subst, substList_eq_map, substList_param cs]
  | .entry _ c | .spread c | .cached _ c | .paren c => by simp only [subst, subst_param c]

theorem substList_param : ∀ (cs : List Code), cs.map (subst .param) = cs
  | [] => rfl
  | c :: rest => by simp only [List.map_cons, subst_param c, substList_param rest]
end

theorem subst_of_params_eq_nil {σ : Nat → Code} {c : Code} (h : c.params = []) : c.subst σ = c :=
  (subst_congr c (by simp [h])).trans (subst_param c)

end JsxVNode.Code
