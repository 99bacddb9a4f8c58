import Mathlib
import Suppression.FileTree.Change
import Suppression.Proofs.Utf8
import Suppression.Source

namespace Suppression

namespace FileTree

/-- No file has as many as 2^53 bytes. -/
def Holdable (tree : FileTree) : Prop :=
  ∀ place content, (place, Node.file content) ∈ tree.nodes → content.length < 2 ^ 53

def single (file : String) (text : String) : FileTree :=
  { nodes := [([file], .file (Text.encodeUtf8 text))], working := [] }

theorem mem_nodes_of_node? {tree : FileTree} {place : Place} {content : List UInt8}
    (h : tree.node? place = some (.file content)) :
    ∃ place, (place, Node.file content) ∈ tree.nodes := by
  unfold node? at h
  split at h
  · simp at h
  · obtain ⟨before, after, heq, -⟩ := List.lookup_eq_some_iff.mp h
    exact ⟨_, heq ▸ List.mem_append_right before List.mem_cons_self⟩

theorem mem_nodes_of_walk {tree : FileTree} {last : LastName} {links : Nat} {current : Place}
    {names : List String} {place : Place} {content : List UInt8}
    (h : tree.walk last links current names = .ok (place, some (.file content))) :
    ∃ place, (place, Node.file content) ∈ tree.nodes := by
  fun_induction walk tree last links current names with
  | case1 => simp at h
  | case2 links current name rest hempty ih => exact ih h
  | case3 links current rest hup ih => exact ih h
  | case4 => simp at h
  | case5 => simp at h
  | case6 => simp at h
  | case7 => simp at h
  | case8 links current name rest hname hup hwrite hlong place' hnode ih => exact ih h
  | case9 links current name rest hname hup hwrite hlong place' content' hnode hlast =>
      obtain ⟨-, rfl⟩ : place' = place ∧ content' = content := by simpa using h
      exact mem_nodes_of_node? hnode
  | case10 => simp at h
  | case11 => simp at h
  | case12 => simp at h
  | case13 current name rest hname hup hwrite hlong place' target hnode hfollow fewer ih =>
      exact ih h

theorem mem_nodes_of_read {tree : FileTree} {path : String} {content : List UInt8}
    (h : tree.read path = .ok content) : ∃ place, (place, Node.file content) ∈ tree.nodes := by
  simp only [read, bind, Except.bind] at h
  split at h
  · simp at h
  · split at h
    · simp at h
    · simp at h
    · next place content' hfind =>
        obtain rfl : content' = content := by simpa using h
        simp only [find, bind, Except.bind] at hfind
        split at hfind
        · simp at hfind
        · exact mem_nodes_of_walk hfind
    · simp at h

theorem Holdable.length_lt {tree : FileTree} (h : tree.Holdable) {path : Wide} {text : String}
    (htext : tree.readText path = .ok text) : text.length < 2 ^ 53 := by
  unfold readText at htext
  cases hread : tree.read path.shown with
  | error e => simp [hread, Except.map] at htext
  | ok content =>
      obtain ⟨place, hmem⟩ := mem_nodes_of_read hread
      obtain rfl : Text.decodeUtf8 content = text := by simpa [hread, Except.map] using htext
      exact Nat.lt_of_le_of_lt (Text.length_decodeUtf8_le content) (h place content hmem)

/-- The files hold texts of a set and nothing else. -/
def HoldsTexts (tree : FileTree) (texts : Set String) : Prop :=
  ∀ place content, (place, Node.file content) ∈ tree.nodes →
    ∃ text ∈ texts, Text.encodeUtf8 text = content

section texts

variable {tree : FileTree} {texts : Set String} {text : String}

theorem HoldsTexts.mem (h : tree.HoldsTexts texts) {path : Wide}
    (htext : tree.readText path = .ok text) : text ∈ texts := by
  unfold readText at htext
  cases hread : tree.read path.shown with
  | error e => simp [hread, Except.map] at htext
  | ok content =>
      obtain ⟨place, hmem⟩ := mem_nodes_of_read hread
      obtain ⟨found, hfound, rfl⟩ := h place content hmem
      obtain rfl : found = text := by
        simpa [hread, Except.map, Text.decodeUtf8_encodeUtf8] using htext
      exact hfound

theorem holdsTexts_single (htext : text ∈ texts) (file : String) :
    (single file text).HoldsTexts texts := by
  intro place content hmem
  simp only [single, List.mem_singleton, Prod.mk.injEq, Node.file.injEq] at hmem
  exact ⟨text, htext, hmem.2.symm⟩

theorem HoldsTexts.putNode (h : tree.HoldsTexts texts) (htext : text ∈ texts) (place : Place) :
    (tree.putNode place (.file (Text.encodeUtf8 text))).HoldsTexts texts := by
  intro other content hmem
  rcases List.mem_append.mp hmem with hold | hnew
  · exact h other content (List.mem_of_mem_filter hold)
  · obtain ⟨-, hcontent⟩ := Prod.mk.inj (List.mem_singleton.mp hnew)
    exact ⟨text, htext, (Node.file.inj hcontent).symm⟩

end texts

theorem holdable_single {file text : String} (h : (Text.encodeUtf8 text).length < 2 ^ 53) :
    (single file text).Holdable := by
  intro place content hmem
  simp only [single, List.mem_singleton, Prod.mk.injEq, Node.file.injEq] at hmem
  rwa [hmem.2]

theorem Holdable.putNode {tree : FileTree} (h : tree.Holdable) {content : List UInt8}
    (hcontent : content.length < 2 ^ 53) (place : Place) :
    (tree.putNode place (.file content)).Holdable := by
  intro other found hmem
  rcases List.mem_append.mp hmem with hold | hnew
  · exact h other found (List.mem_of_mem_filter hold)
  · obtain ⟨-, hfound⟩ := Prod.mk.inj (List.mem_singleton.mp hnew)
    obtain rfl := Node.file.inj hfound
    exact hcontent

theorem read_plain {tree : FileTree} {file : String} {content : List UInt8}
    (hcheck : FileError.checkPath file = .ok ()) (hnames : names file = [file])
    (hproper : file ≠ "" ∧ file ≠ "." ∧ file ≠ "..") (hlength : file.utf8ByteSize ≤ nameLimit)
    (hworking : tree.working = []) (hnode : tree.nodes.lookup [file] = some (.file content)) :
    tree.read file = .ok content := by
  obtain ⟨hempty, hdot, hup⟩ := hproper
  have hplace : origin file [] = [] := by simp [origin]
  have hpath : ¬ pathLimit < file.utf8ByteSize := by
    rw [nameLimit] at hlength
    rw [pathLimit]
    omega
  have hname : ¬ nameLimit < file.utf8ByteSize := Nat.not_lt.mpr hlength
  simp [read, find, walk, node?, checkLength, hcheck, hnames, hempty, hdot, hup, hname, hpath,
    hplace, hworking, hnode, bind, Except.bind]

theorem readText_plain {tree : FileTree} {file text : String}
    (hcheck : FileError.checkPath file = .ok ()) (hnames : names file = [file])
    (hproper : file ≠ "" ∧ file ≠ "." ∧ file ≠ "..") (hlength : file.utf8ByteSize ≤ nameLimit)
    (hworking : tree.working = [])
    (hnode : tree.nodes.lookup [file] = some (.file (Text.encodeUtf8 text))) :
    tree.readText file = .ok text := by
  rw [readText, Wide.shown_text, read_plain hcheck hnames hproper hlength hworking hnode,
    Except.map, Text.decodeUtf8_encodeUtf8]

theorem eq_of_readText_single {file text found : String} {path : Wide}
    (h : (single file text).readText path = .ok found) : found = text :=
  (holdsTexts_single (Set.mem_singleton text) file).mem h

section other

variable {tree : FileTree} {text : String}

theorem readText_script (hworking : tree.working = [])
    (hnode : tree.nodes.lookup ["a.py"] = some (.file (Text.encodeUtf8 text))) :
    tree.readText "a.py" = .ok text :=
  readText_plain (by cbv) (by cbv) (by decide) (by decide) hworking hnode

theorem readText_single_script (text : String) :
    (single "a.py" text).readText "a.py" = .ok text :=
  readText_script rfl rfl

theorem readText_stored (hworking : tree.working = [])
    (hnode : tree.nodes.lookup ["c"] = some (.file (Text.encodeUtf8 text))) :
    tree.readText "c" = .ok text :=
  readText_plain (by cbv) (by cbv) (by decide) (by decide) hworking hnode

theorem find_file (hworking : tree.working = []) (content? : Option (List UInt8))
    (hnode : tree.nodes.lookup ["c"] = content?.map Node.file) (last : LastName) :
    tree.find "c" last = .ok (["c"], content?.map Node.file) := by
  have hlength : checkLength "c" = .ok () := rfl
  have hnames : names "c" = ["c"] := by cbv
  have hlong : ¬ nameLimit < "c".utf8ByteSize := by decide
  have hplace : origin "c" [] = [] := by simp [origin]
  cases content? <;>
    simp [find, walk, node?, hlength, hnames, hlong, hworking, hplace, hnode, bind, Except.bind]

theorem find_other (hworking : tree.working = []) (hnode : tree.nodes.lookup ["c"] = none)
    (last : LastName) : tree.find "c" last = .ok (["c"], none) :=
  find_file hworking none hnode last

theorem readText_other (hworking : tree.working = []) (hnode : tree.nodes.lookup ["c"] = none) :
    tree.readText "c" = .error (.system .noEntry (.openFile "c")) := by
  have hcheck : FileError.checkPath "c" = .ok () := by cbv
  simp [readText, read, hcheck, find_other hworking hnode, bind, Except.bind, Except.map]

theorem makeDirectories_here (hworking : tree.working = []) :
    tree.makeDirectories "." = (.ok (), tree) := by
  have hlength : checkLength "." = .ok () := rfl
  have hnames : names "." = ["."] := by cbv
  have hpaths : pathsUpTo "." = ["."] := by cbv
  simp [makeDirectories, hpaths, makeFirst, makeDirectory, findEnd, hlength, hnames, walk,
    settleDirectory, find, PathEnd.isProper, hworking, origin, bind, Except.bind, pure, Except.pure,
    throw, throwThe, MonadExceptOf.throw]

theorem writeWithParents_file (hworking : tree.working = []) (content? : Option (List UInt8))
    (hnode : tree.nodes.lookup ["c"] = content?.map Node.file) (content : List UInt8) :
    tree.writeWithParents "c" content = (.ok (), tree.putNode ["c"] (.file content)) := by
  have hcheck : FileError.checkPath "c" = .ok () := by cbv
  have hcheck' : FileError.checkPath "." = .ok () := by cbv
  have hparent : parentPath "c" = "." := by cbv
  cases content? <;>
    simp [writeWithParents, hparent, hcheck', makeDirectories_here hworking, write, hcheck,
      find_file hworking _ hnode, bind, Except.bind]

theorem writeWithParents_other (hworking : tree.working = [])
    (hnode : tree.nodes.lookup ["c"] = none) (content : List UInt8) :
    tree.writeWithParents "c" content = (.ok (), tree.putNode ["c"] (.file content)) :=
  writeWithParents_file hworking none hnode content

end other

theorem readText_single_other (text : String) :
    (single "a.py" text).readText "c" = .error (.system .noEntry (.openFile "c")) :=
  readText_other rfl rfl

theorem writeWithParents_single_other (text : String) (content : List UInt8) :
    (single "a.py" text).writeWithParents "c" content =
      (.ok (), (single "a.py" text).putNode ["c"] (.file content)) :=
  writeWithParents_other rfl rfl content

theorem writable_single_other (text : String) (content : List UInt8) :
    ((single "a.py" text).writeWithParents "c" content).1 = .ok () := by
  rw [writeWithParents_single_other]

end FileTree

end Suppression
