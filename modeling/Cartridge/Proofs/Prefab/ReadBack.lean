import Cartridge.Proofs.Prefab.Lines
import Cartridge.Proofs.Scene.ReadBack

/-!
Prefabs read back from their text. The root records, the records of the children
and the tables are laid down by separate passes over the prefabs; a prefab is
followed from its root to its table, and from each row there to the only record
that the symbol in the row can stand for.
-/

namespace Cartridge.Export

open Cartridge.Assembly
open Cartridge.Text (OneLine hex4)

/-- The operands in a row of the table of a prefab. -/
structure ChildRow where
  descriptor : String
  record : String
  x : String
  y : String
  width : String
  height : String

def ChildRow.lines (row : ChildRow) : List String :=
  ["\tdc.w " ++ row.descriptor ++ "\t; Entity descriptor",
    "\tdc.l " ++ row.record ++ "\t; Entity spawn data",
    "\tdc.w " ++ row.x ++ "\t; Position X",
    "\tdc.w " ++ row.y ++ "\t; Position Y",
    "\tdc.w " ++ row.width ++ "\t; ExtentsX",
    "\tdc.w " ++ row.height ++ "\t; ExtentsY"]

/-- A row is that of the child: it has its descriptor, the low half of each
coordinate of its middle and of half of each of its dimensions, and the only
record that its symbol can stand for holds the values of the child. -/
structure ChildRow.Serves (source : List String) (row : ChildRow) (e : Entity) : Prop where
  descriptor : row.descriptor = e.typeName ++ "_Typedesc"
  x : Text.readMarkedHex? 0x10000 row.x.toList =
    some ((e.spawn.position.x.toInt + e.spawn.dimensions.width.toNat / 2) % 0x10000).toNat
  y : Text.readMarkedHex? 0x10000 row.y.toList =
    some ((e.spawn.position.y.toInt + e.spawn.dimensions.height.toNat / 2) % 0x10000).toNat
  width : Text.readMarkedHex? 0x10000 row.width.toList =
    some (e.spawn.dimensions.width.toNat / 2 % 0x10000)
  height : Text.readMarkedHex? 0x10000 row.height.toList =
    some (e.spawn.dimensions.height.toNat / 2 % 0x10000)
  defined_once : source.count (row.record ++ ":") = 1
  values : readRecord (block row.record source) = e.valueGroups

/-- Nothing of the prefab is lost or mixed up in the source: its root has the
number of rows in its table, and there is a row for each of its children. -/
structure PrefabReadsBack (source : List String) (p : Prefab) : Prop where
  root_defined_once : source.count ("prefabdata_" ++ p.name ++ ":") = 1
  table_defined_once : source.count ("prefabspawntable_" ++ p.name ++ ":") = 1
  rows : ∃ rows : List ChildRow, ∃ id count : String,
    block ("prefabdata_" ++ p.name) source =
      ["\tdc.w " ++ id ++ "\t; Prefab_TypeId",
        "\tdc.w " ++ count ++ "\t; Prefab_ChildCount",
        "\tdc.l " ++ ("prefabspawntable_" ++ p.name) ++ "\t; Prefab_SpawnTable"] ∧
    Text.readMarkedHex? 0x10000 id.toList = some p.id.toNat ∧
    Text.readMarkedHex? 0x10000 count.toList = some rows.length ∧
    paragraphs ("prefabspawntable_" ++ p.name) source = rows.map ChildRow.lines ∧
    List.Forall₂ (fun e row => row.Serves source e) p.children rows

/-! ### Places of children -/

/-- The low half of a sum does not notice where the sum wraps around. -/
theorem low_toInt_add (x : Int32) (w : UInt32) :
    (x + w.toInt32).toInt % 0x10000 = (x.toInt + w.toNat) % 0x10000 := by
  have hw : w.toInt32.toInt = (w.toNat : Int).bmod (2 ^ 32) :=
    BitVec.toInt_eq_toNat_bmod w.toBitVec
  have hsum := Int.bmod_add_bdiv (x.toInt + w.toInt32.toInt) (2 ^ 32)
  have hpart := Int.bmod_add_bdiv w.toNat (2 ^ 32)
  rw [Int32.toInt_add]
  rw [hw] at hsum ⊢
  omega

theorem readMarkedHex?_middle (x : Int32) (size : UInt32) :
    Text.readMarkedHex? 0x10000 (hex4 (x + (size / 2).toInt32).toInt).toList =
      some ((x.toInt + size.toNat / 2) % 0x10000).toNat := by
  rw [Text.readMarkedHex?_hex4, low_toInt_add, UInt32.toNat_div]
  rfl

theorem readMarkedHex?_hex4_natCast (n : Nat) :
    Text.readMarkedHex? 0x10000 (hex4 n).toList = some (n % 0x10000) := by
  rw [Text.readMarkedHex?_hex4]
  rfl

theorem readMarkedHex?_half (size : UInt32) :
    Text.readMarkedHex? 0x10000 (hex4 (size / 2).toNat).toList =
      some (size.toNat / 2 % 0x10000) := by
  rw [readMarkedHex?_hex4_natCast, UInt32.toNat_div]
  rfl

/-! ### Rows -/

def Placed.childRow (c : Placed) : ChildRow where
  descriptor := c.entity.descriptor
  record := c.label
  x := hex4 c.entity.spawn.centre.x.toInt
  y := hex4 c.entity.spawn.centre.y.toInt
  width := hex4 c.entity.spawn.extents.width.toNat
  height := hex4 c.entity.spawn.extents.height.toNat

/-- A row without the blank line at its end. -/
def rowBody (c : Placed) : List Line :=
  (childRow c).dropLast

theorem text_rowBody (c : Placed) : (rowBody c).map Line.text = c.childRow.lines := by
  simp only [rowBody, childRow, List.dropLast_cons_cons, List.dropLast_singleton, List.map_cons,
    List.map_nil]
  rw [text_data rfl rfl, text_data rfl rfl, text_data rfl rfl, text_data rfl rfl,
    text_data rfl rfl, text_data rfl rfl]
  rfl

section

variable {settings : Settings} {prefabs : List Prefab}

theorem head?_label_of_mem_placedChildren {c : Placed} (hc : c ∈ placedChildren prefabs) :
    c.label.toList.head? ≠ some '\t' :=
  head?_of_starts (start_label_of_mem_placedChildren hc) (by decide)

theorem serves_childRow (hdynamic : ∀ p ∈ prefabs, ∀ e ∈ p.children, e.isStatic = false)
    {c : Placed} (hc : c ∈ placedChildren prefabs) :
    c.childRow.Serves ((prefabLines settings prefabs).map Line.text) c.entity where
  descriptor := rfl
  x := readMarkedHex?_middle _ _
  y := readMarkedHex?_middle _ _
  width := readMarkedHex?_half _
  height := readMarkedHex?_half _
  defined_once := by
    rw [← count_label_of_mem_placedChildren settings hdynamic hc]
    exact count_text_label (head?_label_of_mem_placedChildren hc) _
  values := readRecord_block_of_owner (prefabLines_eq settings prefabs)
    (Registry.exists_owned_of_mem_placed (isStatic_of_mem_flatMap_requests hdynamic) hc)
    (head?_label_of_mem_placedChildren hc)
    (count_label_of_mem_placedChildren settings hdynamic hc)

/-! ### Roots and tables -/

variable (hnames : (prefabs.map Prefab.name).Nodup)

include hnames

theorem block_root {p : Prefab} (hp : p ∈ prefabs) :
    block (rootLabel p.name) ((prefabLines settings prefabs).map Line.text) =
      ["\tdc.w " ++ hex4 p.id.toNat ++ "\t; Prefab_TypeId",
        "\tdc.w " ++ hex4 p.children.length ++ "\t; Prefab_ChildCount",
        "\tdc.l " ++ tableLabel p.name ++ "\t; Prefab_SpawnTable"] := by
  obtain ⟨before, after, hprefabs⟩ : ∃ before after, prefabs = before ++ p :: after :=
    List.append_of_mem hp
  have hroots : prefabs.flatMap prefabRoot = before.flatMap prefabRoot ++
      Line.label (rootLabel p.name) :: ((prefabRoot p).tail.dropLast ++
        Line.blank :: after.flatMap prefabRoot) := by
    rw [hprefabs, List.flatMap_append, List.flatMap_cons]
    rfl
  obtain ⟨rest, hlines⟩ : ∃ rest, prefabLines settings prefabs =
      before.flatMap prefabRoot ++
        Line.label (rootLabel p.name) :: ((prefabRoot p).tail.dropLast ++ Line.blank :: rest) := by
    rw [prefabLines_eq, hroots]
    simp only [List.append_assoc, List.cons_append]
    exact ⟨_, rfl⟩
  have hhead : (rootLabel p.name).toList.head? ≠ some '\t' :=
    head?_of_starts (start_append "prefabdata_" p.name) (by decide)
  rw [block_of_count hhead hlines (count_rootLabel settings hnames hp)
    (by simp [prefabRoot]) rfl]
  simp only [prefabRoot, List.tail_cons, List.dropLast_cons_cons, List.dropLast_singleton,
    List.map_cons, List.map_nil]
  rw [text_data rfl rfl, text_data rfl rfl, text_data rfl rfl]
  rfl

theorem paragraphs_table {p : Prefab} {children : List Placed}
    (hplaced : (p, children) ∈ placePrefabs .empty prefabs) (hp : p ∈ prefabs) :
    paragraphs (tableLabel p.name) ((prefabLines settings prefabs).map Line.text) =
      (children.map Placed.childRow).map ChildRow.lines := by
  obtain ⟨before, after, hplacing⟩ : ∃ before after,
      placePrefabs .empty prefabs = before ++ (p, children) :: after :=
    List.append_of_mem hplaced
  have htable : prefabTable p.name children = Line.label (tableLabel p.name) ::
      ((children.map rowBody).flatMap (fun row => row ++ [Line.blank]) ++ [Line.blank]) := by
    rw [prefabTable, List.flatMap_map, List.cons_append]
    rfl
  have htables : tableLines prefabs =
      (before.flatMap fun placed => prefabTable placed.1.name placed.2) ++
        Line.label (tableLabel p.name) ::
          ((children.map rowBody).flatMap (fun row => row ++ [Line.blank]) ++
            Line.blank :: after.flatMap fun placed => prefabTable placed.1.name placed.2) := by
    simp only [tableLines, hplacing, List.flatMap_append, List.flatMap_cons, htable,
      List.cons_append, List.append_assoc, List.nil_append]
  obtain ⟨start, rest, hlines⟩ : ∃ start rest, prefabLines settings prefabs =
      start ++ Line.label (tableLabel p.name) ::
        ((children.map rowBody).flatMap (fun row => row ++ [Line.blank]) ++
          Line.blank :: rest) := by
    rw [prefabLines_eq, htables, ← List.append_assoc, ← List.append_assoc]
    exact ⟨_, _, rfl⟩
  have hhead : (tableLabel p.name).toList.head? ≠ some '\t' :=
    head?_of_starts (start_append "prefabspawntable_" p.name) (by decide)
  have hbodies : ∀ row ∈ children.map rowBody, row ≠ [] ∧ Line.blank ∉ row := by
    intro row hrow
    obtain ⟨c, -, rfl⟩ := List.mem_map.1 hrow
    simp [rowBody, childRow]
  rw [paragraphs_of_count hhead hlines (count_tableLabel settings hnames hp) hbodies,
    List.map_map, List.map_map]
  exact List.map_congr_left fun c _ => text_rowBody c

end

/-- The text of prefabs holds for each of them a root with the number of its
children and a table with a row for each child, and what a row points to are the
values of that child: also if the record was laid down for a child of another
prefab, and if the names of another prefab and its child run together alike. -/
theorem prefabsText_reads_back (settings : Settings) {prefabs : List Prefab}
    (hdynamic : ∀ p ∈ prefabs, ∀ e ∈ p.children, e.isStatic = false)
    (hcount : ∀ p ∈ prefabs, p.children.length < 0x10000)
    (hnames : (prefabs.map Prefab.name).Nodup) (hprefabs : ∀ p ∈ prefabs, p.OneLine) :
    ∀ p ∈ prefabs, PrefabReadsBack (sourceLines (prefabsText settings prefabs)) p := by
  intro p hp
  rw [prefabsText, sourceLines_render (oneLine_prefabLines settings hprefabs)]
  obtain ⟨children, hplaced⟩ : ∃ children, (p, children) ∈ placePrefabs .empty prefabs := by
    have hfst := hp
    rw [← fst_placePrefabs .empty prefabs] at hfst
    simpa using hfst
  have hentities : children.map Placed.entity = p.children := entities_of_mem_placePrefabs hplaced
  constructor
  · rw [← count_rootLabel settings hnames hp]
    exact count_text_label (head?_of_starts (start_append _ _) (by decide)) _
  · rw [← count_tableLabel settings hnames hp]
    exact count_text_label (head?_of_starts (start_append _ _) (by decide)) _
  · refine ⟨children.map Placed.childRow, hex4 p.id.toNat, hex4 p.children.length,
      block_root hnames hp, ?_, ?_, paragraphs_table hnames hplaced hp, ?_⟩
    · rw [readMarkedHex?_hex4_natCast, Nat.mod_eq_of_lt p.id.toNat_lt]
    · rw [readMarkedHex?_hex4_natCast, Nat.mod_eq_of_lt (hcount p hp), List.length_map, ← hentities,
        List.length_map]
    · rw [← hentities, List.forall₂_map_left_iff, List.forall₂_map_right_iff, List.forall₂_same]
      intro c hc
      refine serves_childRow hdynamic ?_
      rw [← flatMap_placePrefabs_empty]
      exact List.mem_flatMap.2 ⟨_, hplaced, hc⟩

/-- Two prefabs whose children's names run together alike, and a third one that
shares the record of the first. -/
theorem squads_read_back :
    let bat : String → String → Entity := fun name speed =>
      ⟨"Bat", 1, ⟨name, ⟨-16, 8⟩, ⟨16, 24⟩, [⟨"Speed", .word, speed, []⟩]⟩, [], [], false⟩
    let prefabs : List Prefab := [⟨"A", 1, [bat "B_C" "4", bat "D" "5"]⟩, ⟨"A_B", 2, [bat "C" "6"]⟩,
      ⟨"E", 3, [bat "F" "4"]⟩]
    ∀ p ∈ prefabs, PrefabReadsBack (sourceLines (prefabsText .default prefabs)) p := by
  intro bat prefabs
  exact prefabsText_reads_back .default (by decide) (by decide) (by decide) (by decide)

end Cartridge.Export
