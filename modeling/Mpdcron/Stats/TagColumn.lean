import Mpdcron.Lib.Delimited
import Mpdcron.Stats.Command
import Mpdcron.Stats.Statement

/-! The `tags` column of a row under `addtag` and `rmtag`, as `listtags` reads it. -/

namespace Mpdcron.Stats

open CString SqlText

/-- What `validate_tag` accepts. -/
abbrev Tag := {tag : Bytes // validateTag tag = .ok ()}

theorem Tag.isWord (tag : Tag) : Delimited.IsWord colon tag.val :=
  (validateTag_ok tag.val).mp tag.property

inductive TagOp where
  | add (tag : Tag)
  | remove (tag : Tag)
  deriving DecidableEq

/-- What the operation makes of the column. -/
def TagOp.onColumn : TagOp → Bytes → Except Fault Bytes
  | .add tag, tags => .ok (tags ++ (tag.val ++ [colon]))
  | .remove tag, tags => removeTag (some tags) tag.val

/-- What it makes of the list that the column stands for. -/
def TagOp.onList : TagOp → List Tag → List Tag
  | .add tag, list => list ++ [tag]
  | .remove tag, list => list.filter (· ≠ tag)

def runColumn (ops : List TagOp) (tags : Bytes) : Except Fault Bytes :=
  ops.foldlM (fun tags op => op.onColumn tags) tags

def runList (ops : List TagOp) (list : List Tag) : List Tag :=
  ops.foldl (fun list op => op.onList list) list

/-- The column of a list of tags. -/
def tagColumn (list : List Tag) : Bytes := Delimited.render colon (list.map Subtype.val)

/-- The pieces that `handle_listtags` and its siblings print. -/
def listedTags (tags : Bytes) : List Bytes := (gStrsplit tags).filter (· ≠ [])

theorem listedTags_eq (tags : Bytes) : listedTags tags = Delimited.words colon tags := by
  rw [listedTags, gStrsplit]
  split
  · rename_i empty
    rw [empty, Delimited.words_nil]
    rfl
  · rfl

theorem listedTags_tagColumn (list : List Tag) :
    listedTags (tagColumn list) = list.map Subtype.val := by
  rw [listedTags_eq]
  refine Delimited.words_render colon _ fun word member => ?_
  rcases List.mem_map.mp member with ⟨tag, -, rfl⟩
  exact Tag.isWord tag

theorem removeTag_eq (tags tag : Bytes) :
    removeTag (some tags) tag
      = .ok (Delimited.render colon ((listedTags tags).filter (· ≠ tag))) := by
  rw [removeTag, Delimited.render, listedTags, List.filter_filter]
  simp only [Bool.decide_and, Bool.and_comm]

/-- Equal bytes are the same tag, so what is left of the texts is what is left of the tags. -/
theorem filter_texts (list : List Tag) (tag : Tag) :
    (list.map Subtype.val).filter (· ≠ tag.val) = (list.filter (· ≠ tag)).map Subtype.val := by
  rw [List.filter_map]
  congr 2
  funext other
  simp [Subtype.ext_iff]

/-- The step of the simulation. -/
theorem TagOp.onColumn_tagColumn (op : TagOp) (list : List Tag) :
    op.onColumn (tagColumn list) = .ok (tagColumn (op.onList list)) := by
  cases op with
  | add tag =>
      calc
        _ = Except.ok (tagColumn list ++ (tag.val ++ [colon])) := rfl
        _ = Except.ok (Delimited.render colon (list.map Subtype.val ++ [tag.val])) := by
          rw [tagColumn, Delimited.render_concat]
        _ = Except.ok (tagColumn (list ++ [tag])) := by
          rw [tagColumn, List.map_append, List.map_singleton]
  | remove tag =>
      calc
        _ = Except.ok (Delimited.render colon ((listedTags (tagColumn list)).filter (· ≠ tag.val))) :=
          removeTag_eq (tagColumn list) tag.val
        _ = Except.ok (Delimited.render colon ((list.map Subtype.val).filter (· ≠ tag.val))) := by
          rw [listedTags_tagColumn]
        _ = Except.ok (tagColumn (list.filter (· ≠ tag))) := by rw [filter_texts, tagColumn]

theorem runColumn_tagColumn (ops : List TagOp) : ∀ list : List Tag,
    runColumn ops (tagColumn list) = .ok (tagColumn (runList ops list)) := by
  induction ops with
  | nil => exact fun list => rfl
  | cons op ops ih =>
      intro list
      calc
        _ = op.onColumn (tagColumn list) >>= runColumn ops := rfl
        _ = runColumn ops (tagColumn (op.onList list)) := by rw [op.onColumn_tagColumn]; rfl
        _ = _ := ih (op.onList list)

/-- The column is a list of tags: `:` and a block `tag:` for each of them, and what is printed of
it is that list. Removing a tag takes nothing away from another one. -/
theorem tagColumn_is_list (ops : List TagOp) :
    ∃ column, runColumn ops [colon] = .ok column ∧
      column = colon :: (runList ops []).flatMap (fun tag => tag.val ++ [colon]) ∧
      listedTags column = (runList ops []).map Subtype.val ∧
      tagLines (some (gStrsplit column))
        = .ok ((runList ops []).map fun tag => textLine "Tag" (some tag.val)) ∧
      ∀ tag : Tag, ∃ removed, removeTag (some column) tag.val = .ok removed ∧
        tag.val ∉ listedTags removed ∧
        ∀ other, other ≠ tag.val →
          (listedTags removed).count other = (listedTags column).count other := by
  have blocks : tagColumn (runList ops [])
      = colon :: (runList ops []).flatMap (fun tag => tag.val ++ [colon]) := by
    rw [tagColumn, Delimited.render, List.flatMap_map]
  have listed := listedTags_tagColumn (runList ops [])
  refine ⟨tagColumn (runList ops []), runColumn_tagColumn ops [], blocks, listed, ?_, fun tag => ?_⟩
  · have lines : tagLines (some (gStrsplit (tagColumn (runList ops []))))
        = .ok ((listedTags (tagColumn (runList ops []))).map fun tag => textLine "Tag" (some tag)) :=
      rfl
    rw [lines, listed, List.map_map]
    rfl
  · have removes := (TagOp.remove tag).onColumn_tagColumn (runList ops [])
    have left : listedTags (tagColumn ((TagOp.remove tag).onList (runList ops [])))
        = (listedTags (tagColumn (runList ops []))).filter (· ≠ tag.val) := by
      rw [listedTags_tagColumn, listed, filter_texts, TagOp.onList]
    refine ⟨_, removes, ?_, fun other different => ?_⟩
    · rw [left]
      simp
    · rw [left, List.count_filter (by simpa using different)]

end Mpdcron.Stats
