import GraphDecl.Proofs.WrittenValues
import GraphDecl.Syntax.Estree
import Mathlib.Data.List.Basic

/-!
# The ESTree text of a declaration

A declaration whose constants are exact is determined by its ESTree text. Read in one pass, the
objects of the ESTree form are those of the nodes of the tree in their order, and each is headed by
a `type` that names the kind of its node, with no key repeated.
-/

namespace GraphDecl
open Json (Value)
open Estree

namespace Estree

@[simp] theorem node_inj {kind kind' : String} {members members' : List (String × Value)} :
    node kind members = node kind' members' ↔ kind = kind' ∧ members = members' := by
  simp [node]

@[simp] theorem identifierNode_inj {name name' : String} :
    identifierNode name = identifierNode name' ↔ name = name' := by
  simp [identifierNode]

@[simp] theorem propertyNode_inj {k k' : String} {v v' : Value} :
    propertyNode k v = propertyNode k' v' ↔ k = k' ∧ v = v' := by
  simp [propertyNode]

theorem exact_identifierNode (name : String) : (identifierNode name).Exact :=
  ⟨trivial, trivial, trivial⟩

theorem exact_propertyNode (key : String) {v : Value} (h : v.Exact) : (propertyNode key v).Exact :=
  ⟨trivial, exact_identifierNode key, h, trivial, trivial⟩

end Estree

theorem Keyword.text_injective : Function.Injective Keyword.text := by
  intro k k' h
  cases k <;> cases k' <;> simp [Keyword.text] at h ⊢

/-! ### Trees with exact constants -/

namespace Expr

mutual

/-- The constants in the tree are exact. -/
def Exact : Expr → Prop
  | .identifier _ => True
  | .literal l => l.Exact
  | .object properties => ExactProperties properties
  | .construct _ arguments => ExactArguments arguments

def ExactProperties : List (String × Expr) → Prop
  | [] => True
  | (_, e) :: rest => e.Exact ∧ ExactProperties rest

def ExactArguments : List Expr → Prop
  | [] => True
  | e :: rest => e.Exact ∧ ExactArguments rest

end

theorem exactProperties_iff {ps : List (String × Expr)} :
    ExactProperties ps ↔ ∀ p ∈ ps, p.2.Exact :=
  iff_forall_of_cons trivial (fun _ _ => Iff.rfl) ps

theorem exactArguments_iff {es : List Expr} : ExactArguments es ↔ ∀ e ∈ es, e.Exact :=
  iff_forall_of_cons trivial (fun _ _ => Iff.rfl) es

theorem propertyNodes_eq_map (ps : List (String × Expr)) :
    propertyNodes ps = ps.map fun p => propertyNode p.1 p.2.toJson :=
  eq_map_of_cons rfl (fun _ _ => rfl) ps

theorem argumentNodes_eq_map (es : List Expr) : argumentNodes es = es.map toJson :=
  eq_map_of_cons rfl (fun _ _ => rfl) es

/-- Induction on trees, where what is shown of properties or arguments is shown of all at once. -/
theorem induct {P : Expr → Prop} (identifier : ∀ name, P (.identifier name))
    (literal : ∀ l, P (.literal l)) (object : ∀ ps, (∀ p ∈ ps, P p.2) → P (.object ps))
    (construct : ∀ callee es, (∀ e ∈ es, P e) → P (.construct callee es)) (e : Expr) : P e := by
  refine @Expr.rec P (fun ps => ∀ p ∈ ps, P p.2) (fun es => ∀ e ∈ es, P e) (fun p => P p.2)
    identifier literal object construct ?_ ?_ ?_ ?_ ?_ e
  · exact List.forall_mem_nil _
  · exact fun p rest hp hrest => List.forall_mem_cons.2 ⟨hp, hrest⟩
  · exact List.forall_mem_nil _
  · exact fun e rest he hrest => List.forall_mem_cons.2 ⟨he, hrest⟩
  · exact fun _ _ he => he

theorem exact_toJson {e : Expr} (h : e.Exact) : e.toJson.Exact := by
  induction e using induct with
  | identifier name => exact exact_identifierNode name
  | literal l => exact ⟨trivial, Literal.exact_toJson h, trivial⟩
  | object ps ih =>
    have hexact := exactProperties_iff.1 h
    refine ⟨trivial, Value.exactItems_iff.2 ?_, trivial⟩
    rw [propertyNodes_eq_map]
    exact List.forall_mem_map.2 fun p hp => exact_propertyNode p.1 (ih p hp (hexact p hp))
  | construct callee es ih =>
    have hexact := exactArguments_iff.1 h
    refine ⟨trivial, exact_identifierNode callee, Value.exactItems_iff.2 ?_, trivial⟩
    rw [argumentNodes_eq_map]
    exact List.forall_mem_map.2 fun e he => ih e he (hexact e he)

theorem toJson_inj {e e' : Expr} (he : e.Exact) (he' : e'.Exact) (h : e.toJson = e'.toJson) :
    e = e' := by
  -- trees of different constructors differ in their kind
  induction e using induct generalizing e' with
  | identifier name =>
    cases e' with
    | identifier name' => rw [identifierNode_inj.1 h]
    | _ => simp [toJson, identifierNode] at h
  | literal l =>
    cases e' with
    | literal l' =>
      have hl : l.toJson = l'.toJson := by simpa [toJson] using h
      rw [Literal.toJson_inj he he' hl]
    | _ => simp [toJson, identifierNode] at h
  | object ps ih =>
    cases e' with
    | object ps' =>
      have hps := exactProperties_iff.1 he
      have hps' := exactProperties_iff.1 he'
      have hnodes : propertyNodes ps = propertyNodes ps' := by simpa [toJson] using h
      rw [propertyNodes_eq_map, propertyNodes_eq_map] at hnodes
      refine congrArg Expr.object (eq_of_map_eq (fun p hp p' hp' heq => ?_) hnodes)
      obtain ⟨hkey, hvalue⟩ := propertyNode_inj.1 heq
      exact Prod.ext hkey (ih p hp (hps p hp) (hps' p' hp') hvalue)
    | _ => simp [toJson, identifierNode] at h
  | construct callee es ih =>
    cases e' with
    | construct callee' es' =>
      have hes := exactArguments_iff.1 he
      have hes' := exactArguments_iff.1 he'
      obtain ⟨rfl, hnodes⟩ : callee = callee' ∧ argumentNodes es = argumentNodes es' := by
        simpa [toJson] using h
      rw [argumentNodes_eq_map, argumentNodes_eq_map] at hnodes
      refine congrArg (Expr.construct callee) (eq_of_map_eq (fun e he e' he' heq => ?_) hnodes)
      exact ih e he (hes e he) (hes' e' he') heq
    | _ => simp [toJson, identifierNode] at h

/-- An expression is never written as a value that is left out. -/
theorem toJson_ne_null (e : Expr) : e.toJson ≠ .null := by
  cases e <;> exact Value.noConfusion

end Expr

namespace Declarator

def Exact (d : Declarator) : Prop := ∀ e ∈ d.init, e.Exact

theorem exact_toJson {d : Declarator} (h : d.Exact) : d.toJson.Exact := by
  refine ⟨trivial, exact_identifierNode d.name, ?_, trivial⟩
  cases hinit : d.init with
  | none => trivial
  | some e => exact Expr.exact_toJson (h e hinit)

theorem toJson_inj {d d' : Declarator} (hd : d.Exact) (hd' : d'.Exact)
    (h : d.toJson = d'.toJson) : d = d' := by
  obtain ⟨name, init⟩ := d
  obtain ⟨name', init'⟩ := d'
  obtain ⟨rfl, hinit⟩ : name = name' ∧
      (init.map Expr.toJson).getD .null = (init'.map Expr.toJson).getD .null := by
    simpa [toJson] using h
  -- a value that is left out is written as `null`, which no expression is
  cases init with
  | none =>
    cases init' with
    | none => rfl
    | some e' => exact absurd hinit.symm e'.toJson_ne_null
  | some e =>
    cases init' with
    | none => exact absurd hinit e.toJson_ne_null
    | some e' => rw [Expr.toJson_inj (hd e rfl) (hd' e' rfl) hinit]

end Declarator

namespace Declaration

/-- The constants in the declaration are exact. -/
def Exact (d : Declaration) : Prop := ∀ b ∈ d.declarators, b.Exact

theorem exact_toJson {d : Declaration} (h : d.Exact) : d.toJson.Exact := by
  refine ⟨trivial, trivial, Value.exactItems_iff.2 ?_, trivial⟩
  exact List.forall_mem_map.2 fun b hb => Declarator.exact_toJson (h b hb)

theorem toJson_inj {d d' : Declaration} (hd : d.Exact) (hd' : d'.Exact)
    (h : d.toJson = d'.toJson) : d = d' := by
  obtain ⟨keyword, bs⟩ := d
  obtain ⟨keyword', bs'⟩ := d'
  obtain ⟨hkeyword, hbs⟩ : keyword.text = keyword'.text ∧
      bs.map Declarator.toJson = bs'.map Declarator.toJson := by
    simpa [toJson] using h
  have hbs : bs = bs' := eq_of_map_eq
    (fun b hb b' hb' => Declarator.toJson_inj (hd b hb) (hd' b' hb')) hbs
  rw [Keyword.text_injective hkeyword, hbs]

end Declaration

/-! ### Nodes and their objects -/

namespace Json.Value

mutual

/-- The objects in a value, each before those inside it. -/
def objects : Value → List Value
  | .array items => itemObjects items
  | .object members => .object members :: memberObjects members
  | _ => []

def itemObjects : List Value → List Value
  | [] => []
  | v :: rest => v.objects ++ itemObjects rest

def memberObjects : List (String × Value) → List Value
  | [] => []
  | (_, v) :: rest => v.objects ++ memberObjects rest

end

theorem objects_string (s : String) : (string s).objects = [] := rfl

theorem objects_array (items : List Value) : (array items).objects = itemObjects items := rfl

theorem itemObjects_eq_flatMap (items : List Value) :
    itemObjects items = items.flatMap objects :=
  eq_flatMap_of_cons rfl (fun _ _ => rfl) items

end Json.Value

namespace Estree

theorem objects_node (kind : String) (members : List (String × Value)) :
    (node kind members).objects = node kind members :: Value.memberObjects members := rfl

theorem objects_identifierNode (name : String) :
    (identifierNode name).objects = [identifierNode name] := rfl

theorem objects_propertyNode (key : String) (v : Value) :
    (propertyNode key v).objects = propertyNode key v :: identifierNode key :: v.objects := by
  simp [propertyNode, objects_node, Value.memberObjects, objects_identifierNode, Value.objects]

end Estree

/-- A node of a syntax tree. Bound names, keys and callees are nodes of their own. -/
inductive Node
  | declaration (d : Declaration)
  | declarator (d : Declarator)
  | property (key : String) (value : Expr)
  | identifier (name : String)
  | expr (e : Expr)

namespace Node

def kind : Node → String
  | .declaration _ => "VariableDeclaration"
  | .declarator _ => "VariableDeclarator"
  | .property _ _ => "Property"
  | .identifier _ => "Identifier"
  | .expr (.identifier _) => "Identifier"
  | .expr (.literal _) => "Literal"
  | .expr (.object _) => "ObjectExpression"
  | .expr (.construct _ _) => "NewExpression"

def toJson : Node → Value
  | .declaration d => d.toJson
  | .declarator d => d.toJson
  | .property key value => propertyNode key value.toJson
  | .identifier name => identifierNode name
  | .expr e => e.toJson

end Node

mutual

/-- The nodes of a tree, each before those inside it. -/
def Expr.nodes : Expr → List Node
  | .identifier name => [.expr (.identifier name)]
  | .literal l => [.expr (.literal l)]
  | .object properties => .expr (.object properties) :: Expr.nodesOfProperties properties
  | .construct callee arguments =>
    .expr (.construct callee arguments) :: .identifier callee :: Expr.nodesOfArguments arguments

def Expr.nodesOfProperties : List (String × Expr) → List Node
  | [] => []
  | (key, e) :: rest => .property key e :: .identifier key :: e.nodes ++ Expr.nodesOfProperties rest

def Expr.nodesOfArguments : List Expr → List Node
  | [] => []
  | e :: rest => e.nodes ++ Expr.nodesOfArguments rest

end

def Declarator.nodes (d : Declarator) : List Node :=
  .declarator d :: .identifier d.name :: (d.init.map Expr.nodes).getD []

def Declaration.nodes (d : Declaration) : List Node :=
  .declaration d :: d.declarators.flatMap Declarator.nodes

/-- An object with `type` as its first key, for the kind, and without a repeated key. -/
def Estree.IsNode (kind : String) (v : Value) : Prop :=
  ∃ members, v = node kind members ∧ "type" ∉ members.map Prod.fst ∧ (members.map Prod.fst).Nodup

theorem Node.isNode_toJson (n : Node) : IsNode n.kind n.toJson := by
  cases n with
  | expr e => cases e <;> exact ⟨_, rfl, by simp, by simp⟩
  | _ => exact ⟨_, rfl, by simp, by simp⟩

theorem Literal.objects_toJson (l : Literal) : l.toJson.objects = [] := by
  cases l <;> rfl

theorem Expr.nodesOfProperties_eq_flatMap (ps : List (String × Expr)) :
    nodesOfProperties ps = ps.flatMap fun p => .property p.1 p.2 :: .identifier p.1 :: p.2.nodes :=
  eq_flatMap_of_cons rfl (fun _ _ => rfl) ps

theorem Expr.nodesOfArguments_eq_flatMap (es : List Expr) :
    nodesOfArguments es = es.flatMap nodes :=
  eq_flatMap_of_cons rfl (fun _ _ => rfl) es

/-- The parts of a list yield their objects part by part. -/
theorem itemObjects_map {α : Type} {f : α → Value} {nodes : α → List Node} {l : List α}
    (h : ∀ a ∈ l, (f a).objects = (nodes a).map Node.toJson) :
    Value.itemObjects (l.map f) = (l.flatMap nodes).map Node.toJson := by
  rw [Value.itemObjects_eq_flatMap, List.flatMap_map, List.map_flatMap]
  exact List.flatMap_congr h

theorem Expr.objects_toJson (e : Expr) : e.toJson.objects = e.nodes.map Node.toJson := by
  induction e using Expr.induct with
  | identifier name => rfl
  | literal l =>
    rw [toJson, objects_node, Value.memberObjects, l.objects_toJson]
    rfl
  | object ps ih =>
    have hparts : Value.itemObjects (propertyNodes ps) =
        (nodesOfProperties ps).map Node.toJson := by
      rw [propertyNodes_eq_map, nodesOfProperties_eq_flatMap]
      refine itemObjects_map fun p hp => ?_
      rw [objects_propertyNode, ih p hp]
      rfl
    rw [toJson, objects_node, Value.memberObjects, Value.objects_array, hparts, Value.memberObjects,
      List.append_nil]
    rfl
  | construct callee es ih =>
    have hparts : Value.itemObjects (argumentNodes es) = (nodesOfArguments es).map Node.toJson := by
      rw [argumentNodes_eq_map, nodesOfArguments_eq_flatMap]
      exact itemObjects_map ih
    rw [toJson, objects_node, Value.memberObjects, Value.memberObjects, objects_identifierNode,
      Value.objects_array, hparts, Value.memberObjects, List.append_nil]
    rfl

theorem Declarator.objects_toJson (d : Declarator) :
    d.toJson.objects = d.nodes.map Node.toJson := by
  obtain ⟨name, init⟩ := d
  have hinit : ((init.map Expr.toJson).getD .null).objects =
      ((init.map Expr.nodes).getD []).map Node.toJson := by
    cases init with
    | none => rfl
    | some e => exact e.objects_toJson
  rw [toJson, objects_node, Value.memberObjects, Value.memberObjects, objects_identifierNode, hinit,
    Value.memberObjects, List.append_nil]
  rfl

theorem Declaration.objects_toJson (d : Declaration) :
    d.toJson.objects = d.nodes.map Node.toJson := by
  have hparts : Value.itemObjects (d.declarators.map (·.toJson)) =
      (d.declarators.flatMap Declarator.nodes).map Node.toJson :=
    itemObjects_map fun b _ => b.objects_toJson
  rw [toJson, objects_node, Value.memberObjects, Value.memberObjects, Value.objects_string,
    Value.objects_array, hparts, Value.memberObjects, List.append_nil]
  rfl

namespace Declaration

/-- The text of a declaration with exact constants determines the declaration and reads as its
ESTree form, whose objects are those of the nodes, each headed by the kind of its node. -/
theorem text_faithful {d d' : Declaration} (hd : d.Exact) (hd' : d'.Exact) :
    (d.text = d'.text → d = d') ∧
      Json.Document.ofText d.text = ⟨d.toJson.doc, false⟩ ∧
      d.toJson.objects = d.nodes.map Node.toJson ∧ ∀ n ∈ d.nodes, IsNode n.kind n.toJson := by
  refine ⟨fun h => ?_, Value.document_text (exact_toJson hd), d.objects_toJson,
    fun n _ => n.isNode_toJson⟩
  have hjson : d.toJson = d'.toJson :=
    Value.text_injective (exact_toJson hd) (exact_toJson hd') h
  exact toJson_inj hd hd' hjson

/-- A constructor call over a key `type`, a string that looks like a keyword and the first integer
that is kept without a sign. -/
def call : Expr :=
  .construct "T" [.object [("type", .literal (.string "null")), ("a\"", .identifier "null")],
    .literal (.unsigned 0x8000000000000000)]

/-- Two names, the first of them without a value. -/
def unset : Declaration := ⟨.var, [⟨"x", none⟩, ⟨"y", some call⟩]⟩

/-- Two names, the first of them with the value `null`. -/
def nulled : Declaration := ⟨.var, [⟨"x", some (.literal .null)⟩, ⟨"y", some call⟩]⟩

theorem text_faithful_unset_nulled :
    unset.Exact ∧ nulled.Exact ∧ unset.text ≠ nulled.text ∧
      Json.Document.ofText unset.text = ⟨unset.toJson.doc, false⟩ ∧
      unset.toJson.objects = unset.nodes.map Node.toJson ∧
      ∀ n ∈ unset.nodes, IsNode n.kind n.toJson := by
  have hsize : 0x8000000000000000 ≤ (0x8000000000000000 : UInt64).toNat := by decide
  have hcall : call.Exact := ⟨⟨trivial, trivial, trivial⟩, hsize, trivial⟩
  have hunset : unset.Exact := by
    simp [Exact, Declarator.Exact, unset, hcall]
  have hnulled : nulled.Exact := by
    simp [Exact, Declarator.Exact, nulled, hcall, Expr.Exact, Literal.Exact]
  obtain ⟨hinj, hread, hobjects, hnodes⟩ := text_faithful hunset hnulled
  refine ⟨hunset, hnulled, fun htext => ?_, hread, hobjects, hnodes⟩
  exact absurd (hinj htext) (by simp [unset, nulled])

end Declaration
end GraphDecl
