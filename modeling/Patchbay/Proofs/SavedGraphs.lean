-- Saved texts read back. Both layouts of a graph are read as its data, where only the
-- coordinates may come back as other doubles: the reader of numbers rounds more than once.
import Patchbay.Proofs.JsonDoubles
import Patchbay.Proofs.Loading

namespace Patchbay

open Json Json.Reader

/-! ## What is read back -/

/-- What a coordinate is read back as from its own text. -/
def Coordinate.reread (c : Coordinate) : Except Problem Coordinate := do
  let x ← Json.reread c.toFloat
  pure (.ofFloat x)

/-- A node with its coordinates read back, each on its own and in the order of the text. -/
def NodeData.reread (d : NodeData) : Except Problem NodeData := do
  let x ← d.box.x.reread
  let y ← d.box.y.reread
  let width ← d.box.width.reread
  let height ← d.box.height.reread
  pure { d with box := ⟨x, y, width, height⟩ }

/-- The data of a graph with all coordinates read back, node by node. -/
def GraphData.reread (d : GraphData) : Except Problem GraphData := do
  let nodes ← d.nodes.mapM NodeData.reread
  pure { d with nodes }

namespace Coordinate

variable {c : Coordinate}

theorem ofFloat_toFloat (h : HasValue c.toFloat) : ofFloat c.toFloat = c := by
  unfold ofFloat toFloat
  rw [toBits_ofBits h]

theorem exists_reread (h : HasValue c.toFloat) : ∃ c', c.reread = .ok c' := by
  obtain ⟨x, hx⟩ := Json.exists_reread h
  exact ⟨.ofFloat x, bind_eq_ok.mpr ⟨x, hx, rfl⟩⟩

theorem reread_of_no_value (h : ¬HasValue c.toFloat) : c.reread = .error .mismatch :=
  bind_eq_error.mpr (.inl (Json.reread_of_no_value h))

theorem reread_of_short (h : WrittenShort c.toFloat) : c.reread = .ok c := by
  have hback := ofFloat_toFloat h.hasValue
  exact bind_eq_ok.mpr ⟨c.toFloat, Json.reread_of_short h, congrArg Except.ok hback⟩

theorem mismatch_of_reread {problem : Problem} (h : c.reread = .error problem) :
    problem = .mismatch := by
  rcases bind_eq_error.mp h with h | ⟨_, -, hnone⟩
  · exact Json.mismatch_of_reread h
  · cases hnone

end Coordinate

/-! ## Reading the parts of a file -/

/-- The members of a node from its source on. -/
def NodeData.members (d : NodeData) : List (String × Json) :=
  [("src", .string d.source), ("x", .number d.box.x.toFloat), ("y", .number d.box.y.toFloat),
    ("w", .number d.box.width.toFloat), ("h", .number d.box.height.toFloat)]

/-- The draft of a node with all fields read, the title as it is given. -/
def NodeData.drafted (d : NodeData) (title : Option (Option String)) :
    Except Problem NodeDraft := do
  let x ← Json.reread d.box.x.toFloat
  let y ← Json.reread d.box.y.toFloat
  let width ← Json.reread d.box.width.toFloat
  let height ← Json.reread d.box.height.toFloat
  pure ⟨title, some d.source, some (.ofFloat x), some (.ofFloat y), some (.ofFloat width),
    some (.ofFloat height)⟩

theorem NodeData.finish_drafted {d : NodeData} {title : Option (Option String)}
    (h : title.join = d.title) :
    (d.drafted title >>= fun draft => draft.finish.elim (.error .mismatch) .ok) = d.reread := by
  unfold drafted reread Coordinate.reread NodeDraft.finish
  simp only [bind_assoc, pure_bind, h]
  rfl

section Layouts

variable {write : Nat → Json → List Char} (hwrite : LaidOut write)
include hwrite

theorem fills_node (level : Nat) (d : NodeData) (title : Option (Option String)) :
    Fills NodeDraft.fields (d.members.map fun m => (m.1, write level m.2))
      ⟨title, none, none, none, none, none⟩ (d.drafted title) := by
  have hsource : Takes text (write level (.string d.source)) (.ok d.source) := by
    rw [hwrite.string]
    exact takes_text d.source
  refine .ok d.source _ (by rfl) rfl rfl hsource ?_
  refine fills_number hwrite _ _ _ (by rfl) rfl rfl fun x => ?_
  refine fills_number hwrite _ _ _ (by rfl) rfl rfl fun y => ?_
  refine fills_number hwrite _ _ _ (by rfl) rfl rfl fun width => ?_
  refine fills_number hwrite _ _ _ (by rfl) rfl rfl fun height => ?_
  exact .nil _

/-- A node is read with its title, where it has one, and its source. -/
theorem takes_node (level : Nat) (d : NodeData) :
    Takes (record NodeDraft.fields .empty NodeDraft.finish) (write level d.toJson) d.reread := by
  unfold NodeData.toJson
  cases htitle : d.title with
  | none =>
    have htitle' : (none : Option (Option String)).join = d.title := htitle.symm
    rw [← NodeData.finish_drafted htitle']
    exact takes_object hwrite level d.members (fills_node hwrite (level + 1) d none)
  | some title =>
    have htext : Takes text? (write (level + 1) (.string title)) (.ok (some title)) := by
      rw [hwrite.string]
      exact takes_text? title
    have htitle' : (some (some title)).join = d.title := htitle.symm
    rw [← NodeData.finish_drafted htitle']
    exact takes_object hwrite level (("title", .string title) :: d.members)
      (.ok (some title) _ (by rfl) rfl rfl htext
        (fills_node hwrite (level + 1) d (some (some title))))

/-- An edge between places that fit into 64 bits. -/
theorem takes_edge (level : Nat) {e : EdgeData} (he : e.Fits wordLimit) :
    Takes (record EdgeDraft.fields ⟨none, none⟩ EdgeDraft.finish) (write level e.toJson)
      (.ok e) := by
  have hindex : ∀ n < wordLimit, Takes index (write (level + 1) (.whole n)) (.ok n) := by
    intro n hn
    rw [hwrite.whole]
    exact takes_index hn
  have hfills : Fills EdgeDraft.fields
      ([("a", Json.whole e.a), ("b", .whole e.b)].map fun m => (m.1, write (level + 1) m.2))
      ⟨none, none⟩ (.ok ⟨some e.a, some e.b⟩) :=
    .ok e.a _ (by rfl) rfl rfl (hindex e.a he.1)
      (.ok e.b _ (by rfl) rfl rfl (hindex e.b he.2) (.nil _))
  exact takes_object hwrite level [("a", .whole e.a), ("b", .whole e.b)] hfills

/-- Each layout opens an object with a brace. -/
theorem object_opens (level : Nat) (members : List (String × Json)) :
    Opens (write level (.object members)) := by
  obtain ⟨colon, -, hobject⟩ := hwrite.object
  obtain ⟨gap, last, -, -, heq⟩ := (hobject level members).exists_gaps
  rw [heq]
  exact ⟨'{', rfl, rfl, by decide⟩

/-- A list of objects, each of which is read on its own. -/
theorem takes_objects {α ξ : Type} {item : Reader α} {doc : ξ → Json}
    {read : ξ → Except Problem α} (level : Nat) (xs : List ξ)
    (hdoc : ∀ x, ∃ members, doc x = .object members)
    (hitem : ∀ x ∈ xs, Takes item (write (level + 1) (doc x)) (read x)) :
    Takes (array item) (write level (.array (xs.map doc))) (xs.mapM read) := by
  have hbrackets := hwrite.array level (xs.map doc)
  rw [List.map_map] at hbrackets
  refine takes_array xs hitem (fun x _ => ?_) hbrackets
  obtain ⟨members, heq⟩ := hdoc x
  rw [heq]
  exact object_opens hwrite (level + 1) members

theorem takes_graph (level : Nat) {d : GraphData} (hd : ∀ e ∈ d.edges, e.Fits wordLimit) :
    Takes (record GraphDraft.fields ⟨none, none⟩ GraphDraft.finish) (write level d.toJson)
      d.reread := by
  have hnodes : Takes (array (record NodeDraft.fields .empty NodeDraft.finish))
      (write (level + 1) (.array (d.nodes.map NodeData.toJson)))
      (d.nodes.mapM NodeData.reread) :=
    takes_objects hwrite (level + 1) d.nodes (fun _ => ⟨_, rfl⟩) fun x _ =>
      takes_node hwrite (level + 2) x
  have hedges : Takes (array (record EdgeDraft.fields ⟨none, none⟩ EdgeDraft.finish))
      (write (level + 1) (.array (d.edges.map EdgeData.toJson))) (.ok d.edges) := by
    have hall : Takes _ _ (d.edges.mapM fun e => pure e) :=
      takes_objects hwrite (level + 1) d.edges (fun _ => ⟨_, rfl⟩) fun e he =>
        takes_edge hwrite (level + 2) (hd e he)
    rwa [List.mapM_pure, List.map_id'] at hall
  have hfills : Fills GraphDraft.fields
      ([("node_data", Json.array (d.nodes.map NodeData.toJson)),
        ("edges", .array (d.edges.map EdgeData.toJson))].map
        fun m => (m.1, write (level + 1) m.2)) ⟨none, none⟩
      (d.nodes.mapM NodeData.reread >>= fun nodes => .ok ⟨some nodes, some d.edges⟩) := by
    refine .cons _ (by rfl) rfl rfl hnodes fun nodes _ => ?_
    exact .ok d.edges _ (by rfl) rfl rfl hedges (.nil _)
  have hfinish : ((d.nodes.mapM NodeData.reread >>= fun nodes =>
      .ok ⟨some nodes, some d.edges⟩) >>= fun draft : GraphDraft =>
      draft.finish.elim (.error .mismatch) .ok) = d.reread := by
    rw [bind_assoc]
    rfl
  rw [← hfinish]
  exact takes_object hwrite level [("node_data", .array (d.nodes.map NodeData.toJson)),
    ("edges", .array (d.edges.map EdgeData.toJson))] hfills

/-- The text of a graph is read as its data, with the coordinates read back. -/
theorem read_written (level : Nat) {d : GraphData} (hd : ∀ e ∈ d.edges, e.Fits wordLimit) :
    GraphData.read (String.ofList (write level d.toJson)) =
      d.reread.mapError (.unreadable (String.ofList (write level d.toJson))) := by
  unfold GraphData.read
  rw [run_of_takes (takes_graph hwrite level hd)]
  cases d.reread <;> rfl

end Layouts

/-! ## Coordinates -/

def Box.coordinates (box : Box) : List Coordinate := [box.x, box.y, box.width, box.height]

def GraphData.coordinates (d : GraphData) : List Coordinate :=
  d.nodes.flatMap fun node => node.box.coordinates

/-- A node comes back as another with the same title and source, each coordinate as what its
text is read as. -/
structure NodeData.ComesBackAs (d d' : NodeData) : Prop where
  title : d'.title = d.title
  source : d'.source = d.source
  coordinates : List.Forall₂ (fun c c' => c.reread = .ok c') d.box.coordinates
    d'.box.coordinates

/-- A graph comes back as another with the same edges, each node as it does on its own. -/
structure GraphData.ComesBackAs (d d' : GraphData) : Prop where
  nodes : List.Forall₂ NodeData.ComesBackAs d.nodes d'.nodes
  edges : d'.edges = d.edges

theorem mem_of_mapM_eq_error {ε α β : Type} {f : α → Except ε β} {xs : List α} {e : ε}
    (h : xs.mapM f = .error e) : ∃ x ∈ xs, f x = .error e := by
  induction xs with
  | nil => cases h
  | cons x xs ih =>
    rw [List.mapM_cons, bind_eq_error] at h
    rcases h with hx | ⟨_, -, hrest⟩
    · exact ⟨x, List.mem_cons_self, hx⟩
    · rcases bind_eq_error.mp hrest with hxs | ⟨_, -, hnone⟩
      · obtain ⟨y, hy, hfy⟩ := ih hxs
        exact ⟨y, List.mem_cons_of_mem x hy, hfy⟩
      · cases hnone

theorem mapM_eq_ok_iff {ε α β : Type} {f : α → Except ε β} {xs : List α} {ys : List β} :
    xs.mapM f = .ok ys ↔ List.Forall₂ (fun x y => f x = .ok y) xs ys := by
  induction xs generalizing ys with
  | nil => simp [pure, Except.pure, eq_comm]
  | cons x xs ih =>
    rw [List.mapM_cons, bind_eq_ok]
    simp only [bind_eq_ok, pure, Except.pure, Except.ok.injEq]
    constructor
    · rintro ⟨y, hy, ys, hys, rfl⟩
      exact .cons hy (ih.mp hys)
    · rintro (_ | ⟨hy, hys⟩)
      exact ⟨_, hy, _, ih.mpr hys, rfl⟩

theorem NodeData.reread_eq_ok {d d' : NodeData} : d.reread = .ok d' ↔ d.ComesBackAs d' := by
  obtain ⟨title, source, ⟨x, y, width, height⟩⟩ := d
  obtain ⟨title', source', ⟨x', y', width', height'⟩⟩ := d'
  unfold reread
  simp only [bind_eq_ok, pure, Except.pure, Except.ok.injEq]
  constructor
  · rintro ⟨x, hx, y, hy, width, hw, height, hh, ⟨⟩⟩
    exact ⟨rfl, rfl, .cons hx (.cons hy (.cons hw (.cons hh .nil)))⟩
  · rintro ⟨rfl, rfl, _ | ⟨hx, _ | ⟨hy, _ | ⟨hw, _ | ⟨hh, -⟩⟩⟩⟩⟩
    exact ⟨_, hx, _, hy, _, hw, _, hh, rfl⟩

theorem GraphData.reread_eq_ok {d d' : GraphData} : d.reread = .ok d' ↔ d.ComesBackAs d' := by
  obtain ⟨nodes, edges⟩ := d
  obtain ⟨nodes', edges'⟩ := d'
  unfold reread
  simp only [bind_eq_ok, mapM_eq_ok_iff, NodeData.reread_eq_ok, pure, Except.pure,
    Except.ok.injEq]
  constructor
  · rintro ⟨nodes, hnodes, ⟨⟩⟩
    exact ⟨hnodes, rfl⟩
  · rintro ⟨hnodes, rfl⟩
    exact ⟨_, hnodes, rfl⟩

/-- The coordinates of a node fail in one way only. -/
theorem NodeData.reread_eq_error {d : NodeData} {problem : Problem}
    (h : d.reread = .error problem) : problem = .mismatch := by
  unfold reread at h
  simp only [bind_eq_error] at h
  rcases h with h | ⟨_, -, h | ⟨_, -, h | ⟨_, -, h | ⟨_, -, hnone⟩⟩⟩⟩
  · exact Coordinate.mismatch_of_reread h
  · exact Coordinate.mismatch_of_reread h
  · exact Coordinate.mismatch_of_reread h
  · exact Coordinate.mismatch_of_reread h
  · cases hnone

theorem GraphData.reread_eq_error {d : GraphData} {problem : Problem}
    (h : d.reread = .error problem) : problem = .mismatch := by
  rcases bind_eq_error.mp h with hnodes | ⟨_, -, hnone⟩
  · obtain ⟨node, -, hnode⟩ := mem_of_mapM_eq_error hnodes
    exact NodeData.reread_eq_error hnode
  · cases hnone

/-- What comes back is what there was exactly where each coordinate is. -/
theorem GraphData.comesBackAs_self {d : GraphData} :
    d.ComesBackAs d ↔ ∀ c ∈ d.coordinates, c.reread = .ok c := by
  unfold coordinates
  simp only [List.mem_flatMap, forall_exists_index, and_imp]
  constructor
  · intro h x node hnode hx
    have hnodes := List.forall₂_same.mp h.nodes node hnode
    exact List.forall₂_same.mp hnodes.coordinates x hx
  · intro h
    refine ⟨List.forall₂_same.mpr fun node hnode => ⟨rfl, rfl, ?_⟩, rfl⟩
    exact List.forall₂_same.mpr fun x hx => h x node hnode hx

theorem GraphData.ComesBackAs.coordinates {d d' : GraphData} (h : d.ComesBackAs d') :
    List.Forall₂ (fun c c' => c.reread = .ok c') d.coordinates d'.coordinates :=
  List.rel_flatMap h.nodes fun _ _ hnode => hnode.coordinates

/-- Each coordinate of what comes back does so. -/
theorem GraphData.ComesBackAs.exists_reread {d d' : GraphData} (h : d.ComesBackAs d') :
    ∀ c ∈ d.coordinates, ∃ c', c.reread = .ok c' := by
  have hboth : List.Forall₂ (fun c c' => (∃ c', c.reread = .ok c') ∧ c.reread = .ok c')
      d.coordinates d'.coordinates := h.coordinates.imp fun _ c' hc => ⟨⟨c', hc⟩, hc⟩
  exact ((List.forall₂_and_left _ _).mp hboth).1

/-- A graph comes back in one way only. -/
theorem GraphData.ComesBackAs.unique {d d' d'' : GraphData} (h : d.ComesBackAs d')
    (h' : d.ComesBackAs d'') : d' = d'' := by
  have hsame := (GraphData.reread_eq_ok.mpr h).symm.trans (GraphData.reread_eq_ok.mpr h')
  cases hsame
  rfl

theorem exists_forall₂ {α β : Type} {R : α → β → Prop} {xs : List α}
    (h : ∀ x ∈ xs, ∃ y, R x y) : ∃ ys, List.Forall₂ R xs ys := by
  induction xs with
  | nil => exact ⟨[], .nil⟩
  | cons x xs ih =>
    obtain ⟨y, hy⟩ := h x List.mem_cons_self
    obtain ⟨ys, hys⟩ := ih fun x hx => h x (List.mem_cons_of_mem _ hx)
    exact ⟨y :: ys, .cons hy hys⟩

/-- A graph comes back where each of its coordinates does. -/
theorem GraphData.exists_comesBackAs {d : GraphData}
    (h : ∀ c ∈ d.coordinates, ∃ c', c.reread = .ok c') : ∃ d', d.ComesBackAs d' := by
  have hnode : ∀ node ∈ d.nodes, ∃ node', NodeData.ComesBackAs node node' := by
    intro node hmem
    have hbox : ∀ c ∈ node.box.coordinates, ∃ c', c.reread = .ok c' := fun c hc =>
      h c (List.mem_flatMap.mpr ⟨node, hmem, hc⟩)
    obtain ⟨x, hx⟩ := hbox node.box.x (by simp [Box.coordinates])
    obtain ⟨y, hy⟩ := hbox node.box.y (by simp [Box.coordinates])
    obtain ⟨width, hw⟩ := hbox node.box.width (by simp [Box.coordinates])
    obtain ⟨height, hh⟩ := hbox node.box.height (by simp [Box.coordinates])
    exact ⟨⟨node.title, node.source, ⟨x, y, width, height⟩⟩, rfl, rfl,
      .cons hx (.cons hy (.cons hw (.cons hh .nil)))⟩
  obtain ⟨nodes, hnodes⟩ := exists_forall₂ hnode
  exact ⟨⟨nodes, d.edges⟩, hnodes, rfl⟩

/-! ## Saving and loading -/

namespace Graph

variable {g : Graph} {text : String}

theorem indexOf?_lt {id : NodeId} {i : Nat} (h : g.indexOf? id = some i) : i < g.nodes.length :=
  (List.findIdx?_eq_some_iff_getElem.mp h).1

/-- The edges of the data of a graph lead between its places. -/
theorem toData_fits (g : Graph) : ∀ e ∈ g.toData.edges, e.Fits g.toData.nodes.length := by
  intro e he
  have hlength : g.toData.nodes.length = g.nodes.length := List.length_map _
  obtain ⟨edge, -, hedge⟩ := List.mem_filterMap.mp he
  obtain ⟨a, ha, hrest⟩ := Option.bind_eq_some_iff.mp hedge
  obtain ⟨b, hb, heq⟩ := Option.bind_eq_some_iff.mp hrest
  cases heq
  rw [hlength]
  exact ⟨indexOf?_lt ha, indexOf?_lt hb⟩

/-- Both layouts of a graph are read as its data, with the coordinates read back. -/
theorem read_saved (hsize : g.nodes.length ≤ Json.Reader.wordLimit)
    (htext : text = g.save ∨ text = g.savePretty) :
    GraphData.read text = g.toData.reread.mapError (.unreadable text) := by
  have hfits : ∀ e ∈ g.toData.edges, e.Fits Json.Reader.wordLimit := by
    intro e he
    obtain ⟨ha, hb⟩ := toData_fits g e he
    have hlength : g.toData.nodes.length = g.nodes.length := List.length_map _
    exact ⟨by omega, by omega⟩
  have hcompact := read_written compact_laidOut 0 hfits
  have hpretty := read_written pretty_laidOut 0 hfits
  rw [String.ofList_toList] at hcompact hpretty
  rcases htext with rfl | rfl
  · exact hcompact
  · exact hpretty

/-- What comes back of the data of a graph is loaded. -/
theorem load_of_comesBackAs (hsize : g.nodes.length ≤ Json.Reader.wordLimit)
    (htext : text = g.save ∨ text = g.savePretty) {d : GraphData} (hd : g.toData.ComesBackAs d) :
    ∃ g', empty.load text = .ok g' ∧ g'.toData = d := by
  have hfits : ∀ e ∈ d.edges, e.Fits d.nodes.length := by
    rw [hd.edges, ← hd.nodes.length_eq]
    exact toData_fits g
  refine ⟨empty.loaded d, ?_, toData_loaded empty_wellFormed hfits⟩
  unfold load
  rw [read_saved hsize htext, GraphData.reread_eq_ok.mpr hd]
  exact loadData_of_fits empty hfits

/-- Where a coordinate does not come back, nothing is loaded. -/
theorem load_of_no_value (hsize : g.nodes.length ≤ Json.Reader.wordLimit)
    (htext : text = g.save ∨ text = g.savePretty) {c : Coordinate}
    (hc : c ∈ g.toData.coordinates) (hvalue : ¬Json.HasValue c.toFloat) :
    empty.load text = .error (.unreadable text .mismatch) := by
  unfold load
  rw [read_saved hsize htext]
  cases hd : g.toData.reread with
  | error problem =>
    rw [GraphData.reread_eq_error hd]
    rfl
  | ok d =>
    have hcomes := GraphData.reread_eq_ok.mp hd
    obtain ⟨c', hback⟩ := hcomes.exists_reread c hc
    rw [Coordinate.reread_of_no_value hvalue] at hback
    cases hback

/-- Either text of a graph whose coordinates all have values is loaded, as long as its places
fit into 64 bits. All comes back but for the coordinates, each of which comes back as its own
text is read: as itself where it is written short. Then the graph has the same data and the
same texts. A coordinate without a value makes the text unreadable. -/
theorem saved_texts_come_back (g : Graph) (hsize : g.nodes.length ≤ Json.Reader.wordLimit)
    (text : String) (htext : text = g.save ∨ text = g.savePretty) :
    ((∀ c ∈ g.toData.coordinates, Json.HasValue c.toFloat) → ∃ g', empty.load text = .ok g' ∧
      g.toData.ComesBackAs g'.toData ∧
      (g'.toData = g.toData ↔ ∀ c ∈ g.toData.coordinates, c.reread = .ok c)) ∧
    ((∀ c ∈ g.toData.coordinates, Json.WrittenShort c.toFloat) → ∃ g', empty.load text = .ok g' ∧
      g'.toData = g.toData ∧ g'.save = g.save ∧ g'.savePretty = g.savePretty) ∧
    ((∃ c ∈ g.toData.coordinates, ¬Json.HasValue c.toFloat) →
      empty.load text = .error (.unreadable text .mismatch)) := by
  refine ⟨fun hvalue => ?_, fun hshort => ?_, ?_⟩
  · have hback : ∀ c ∈ g.toData.coordinates, ∃ c', c.reread = .ok c' :=
      fun c hc => Coordinate.exists_reread (hvalue c hc)
    obtain ⟨d, hd⟩ := GraphData.exists_comesBackAs hback
    obtain ⟨g', hload, rfl⟩ := load_of_comesBackAs hsize htext hd
    refine ⟨g', hload, hd, ?_⟩
    rw [← GraphData.comesBackAs_self]
    exact ⟨fun hsame => hsame ▸ hd, fun hself => hd.unique hself⟩
  · have hself : g.toData.ComesBackAs g.toData :=
      GraphData.comesBackAs_self.mpr fun c hc => Coordinate.reread_of_short (hshort c hc)
    obtain ⟨g', hload, hsame⟩ := load_of_comesBackAs hsize htext hself
    refine ⟨g', hload, hsame, ?_, ?_⟩
    · unfold save
      rw [hsame]
    · unfold savePretty
      rw [hsame]
  · rintro ⟨c, hc, hvalue⟩
    exact load_of_no_value hsize htext hc hvalue

/-- Two nodes with texts that need escapes, and coordinates of all kinds that are written
short. -/
def keptData : GraphData where
  nodes := [⟨some "\"in\"\n", "\x00 ⊕ \\",
      ⟨.ofFloat 320.5, .ofFloat (-0.0), .ofFloat 1e22, .ofFloat 1e-7⟩⟩,
    ⟨none, "", ⟨.ofFloat 0.1, .ofFloat (-12345.678), .ofFloat 1.0,
      .ofFloat 900719925474099.0⟩⟩]
  edges := [⟨1, 0⟩, ⟨1, 0⟩, ⟨0, 0⟩]

theorem keptData_comes_back_and_sampleData_not :
    (∃ g', empty.load (empty.loaded keptData).save = .ok g' ∧
      g'.toData = (empty.loaded keptData).toData ∧ g'.save = (empty.loaded keptData).save ∧
      g'.savePretty = (empty.loaded keptData).savePretty) ∧
    empty.load (empty.loaded sampleData).savePretty =
      .error (.unreadable (empty.loaded sampleData).savePretty .mismatch) := by
  obtain ⟨-, hkept, -⟩ := saved_texts_come_back (empty.loaded keptData) (by decide) _ (.inl rfl)
  obtain ⟨-, -, hnone⟩ := saved_texts_come_back (empty.loaded sampleData) (by decide) _ (.inr rfl)
  exact ⟨hkept (by decide +kernel), hnone (by decide +kernel)⟩

/-- A third of 640 pixels, written with seventeen digits. -/
def thirdData : GraphData :=
  ⟨[⟨none, "1", ⟨.ofFloat 213.33333333333334, .ofFloat 0.0, .ofFloat 0.0, .ofFloat 0.0⟩⟩], []⟩

/-- It is read back as another double, so that its graph does not come back. -/
theorem thirdData_is_shifted :
    (∀ c ∈ (empty.loaded thirdData).toData.coordinates, Json.HasValue c.toFloat) ∧
      ∃ g', empty.load (empty.loaded thirdData).save = .ok g' ∧
        g'.toData ≠ (empty.loaded thirdData).toData := by
  have hvalue : ∀ c ∈ (empty.loaded thirdData).toData.coordinates, Json.HasValue c.toFloat := by
    decide +kernel
  obtain ⟨d, hd⟩ := GraphData.exists_comesBackAs fun c hc => Coordinate.exists_reread (hvalue c hc)
  obtain ⟨g', hload, rfl⟩ := load_of_comesBackAs (by decide) (.inl rfl) hd
  refine ⟨hvalue, g', hload, fun hsame => ?_⟩
  have hself := GraphData.comesBackAs_self.mp (hsame ▸ hd)
    (.ofFloat 213.33333333333334) List.mem_cons_self
  have hmoved : (Coordinate.ofFloat 213.33333333333334).reread ≠
      .ok (.ofFloat 213.33333333333334) := by decide +kernel
  exact hmoved hself

end Graph

end Patchbay
