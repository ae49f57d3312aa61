import Mathlib.Data.List.TakeWhile
import Tabular.Proofs.Written

/-!
# Headers

What the header of a file says (`FileStore.Heads`): the columns that its cells name, or else what is wrong with it
(`FileStore.Misheads`).
-/

namespace Tabular

/-! ## Header cells -/

/-- A text with a letter in it is parted by the last such letter. -/
theorem exists_last {letter : Char} {text : String} (inside : letter ∈ text.toList) :
    ∃ first last : String, letter ∉ last.toList ∧ text = first ++ String.singleton letter ++ last := by
  obtain ⟨back, front, whole, absent⟩ := List.eq_append_cons_of_mem (List.mem_reverse.mpr inside)
  refine ⟨String.ofList front.reverse, String.ofList back.reverse, by simpa using absent, ?_⟩
  apply String.toList_inj.mp
  rw [← List.reverse_reverse text.toList, whole]
  simp

namespace Delimited

/-- What a header cell names: without a colon a column of strings, else a column whose type is spelled after the last
colon. -/
inductive Names : String → ColumnDef → Prop
  | plain {cell : String} (noColon : ':' ∉ cell.toList) : Names cell ⟨Text.trim cell, .string⟩
  | typed {name spelling : String} {type : DataType} (last : ':' ∉ spelling.toList)
      (known : Text.lower (Text.trim spelling) ∈ type.spellings) :
      Names (name ++ ":" ++ spelling) ⟨Text.trim name, type⟩

/-- What follows the last colon of a header cell spells no type. -/
inductive Misnames : String → DataType.UnknownName → Prop
  | typed {name spelling : String} (last : ':' ∉ spelling.toList)
      (unknown : ∀ type : DataType, Text.lower (Text.trim spelling) ∉ type.spellings) :
      Misnames (name ++ ":" ++ spelling) ⟨Text.lower (Text.trim spelling)⟩

theorem ofText_of_mem {text : String} {type : DataType} (known : Text.lower (Text.trim text) ∈ type.spellings) :
    DataType.ofText text = .ok type := by
  simp only [DataType.ofText]
  generalize Text.lower (Text.trim text) = word at known
  cases type with
  | int64 | float64 | bool | string =>
    simp only [DataType.spellings, List.mem_cons, List.not_mem_nil, or_false] at known
    rcases known with rfl | rfl | rfl | rfl <;> rfl

theorem ofText_of_unknown {text : String} (unknown : ∀ type : DataType, Text.lower (Text.trim text) ∉ type.spellings) :
    DataType.ofText text = .error ⟨Text.lower (Text.trim text)⟩ := by
  have missing : (DataType.all.find? fun type => type.spellings.contains (Text.lower (Text.trim text))) = none := by
    simp [List.find?_eq_none, unknown]
  simp only [DataType.ofText]
  rw [missing]

theorem splitLastColon_of_none {cell : String} (noColon : ':' ∉ cell.toList) : splitLastColon cell = none := by
  have passed : cell.toList.reverse.dropWhile (· != ':') = [] := by
    rw [List.dropWhile_eq_nil_iff]
    intro x inside
    simpa using ne_of_mem_of_not_mem (List.mem_reverse.mp inside) noColon
  simp only [splitLastColon, passed]

theorem Names.read {cell : String} {c : ColumnDef} (names : Names cell c) : readColumn cell = .ok c := by
  cases names with
  | plain noColon => rw [readColumn, splitLastColon_of_none noColon]
  | typed last known =>
    rw [readColumn, splitLastColon_append last]
    dsimp only
    rw [ofText_of_mem known]
    rfl

theorem Misnames.read {cell : String} {fault : DataType.UnknownName} (misnames : Misnames cell fault) :
    readColumn cell = .error fault := by
  cases misnames with
  | typed last unknown =>
    rw [readColumn, splitLastColon_append last]
    dsimp only
    rw [ofText_of_unknown unknown]
    rfl

theorem names_or_misnames (cell : String) : (∃ c, Names cell c) ∨ ∃ fault, Misnames cell fault := by
  by_cases colon : ':' ∈ cell.toList
  · obtain ⟨name, spelling, last, rfl⟩ := exists_last colon
    by_cases known : ∃ type : DataType, Text.lower (Text.trim spelling) ∈ type.spellings
    · obtain ⟨type, known⟩ := known
      exact Or.inl ⟨_, .typed last known⟩
    · exact Or.inr ⟨_, .typed last (not_exists.mp known)⟩
  · exact Or.inl ⟨_, .plain colon⟩

theorem readColumn_eq_ok_iff {cell : String} {c : ColumnDef} : readColumn cell = .ok c ↔ Names cell c := by
  refine ⟨fun read => ?_, Names.read⟩
  rcases names_or_misnames cell with ⟨d, names⟩ | ⟨fault, misnames⟩
  · obtain rfl := Except.ok.inj (names.read.symm.trans read)
    exact names
  · cases misnames.read.symm.trans read

end Delimited

/-! ## Headers -/

namespace FileStore

open Delimited

/-- A file that is opened, and whose header is read and names columns. -/
def Heads (config : Config) (d : Directory) (file : String) (columns : List ColumnDef) : Prop :=
  ∃ reader cells, (d.contents file).reader = .ok reader ∧ reader.header config.delimiter = .ok cells ∧
    List.Forall₂ Names cells columns

/-- What is wrong with the header of a file: it is not opened, it is not read, or the first of its cells that names no
column has a type that is not known. -/
inductive Misheads (config : Config) (d : Directory) (file : String) : StorageError → Prop
  | refused {fault : SystemFault} (closed : (d.contents file).reader = .error fault) :
      Misheads config d file (.io (joinPath config.dataDir file) fault)
  | unread {reader : Reader} {fault : RecordFault} (opened : (d.contents file).reader = .ok reader)
      (failed : reader.header config.delimiter = .error fault) : Misheads config d file (.record fault)
  | unknown {reader : Reader} {before after : List String} {cell : String} {columns : List ColumnDef}
      {fault : DataType.UnknownName} (opened : (d.contents file).reader = .ok reader)
      (read : reader.header config.delimiter = .ok (before ++ cell :: after))
      (named : List.Forall₂ Names before columns) (first : Misnames cell fault) :
      Misheads config d file (.schema (.columnType (joinPath config.dataDir file) fault))

variable {config : Config} {d : Directory} {file : String}

theorem headerColumns_eq_ok_iff {path : String} {cells : List String} {columns : List ColumnDef} :
    headerColumns path cells = .ok columns ↔ List.Forall₂ Names cells columns := by
  rw [headerColumns, mapM_eq_ok_iff_forall₂]
  simp only [mapError_eq_ok, readColumn_eq_ok_iff]

theorem readHeader_eq_ok_iff {columns : List ColumnDef} :
    readHeader config (joinPath config.dataDir file) (d.contents file) = .ok columns ↔
      Heads config d file columns := by
  rw [readHeader, bind_eq_ok]
  simp only [bind_eq_ok, mapError_eq_ok, headerColumns_eq_ok_iff]
  constructor
  · rintro ⟨reader, opened, cells, read, named⟩
    exact ⟨reader, cells, opened, read, named⟩
  · rintro ⟨reader, cells, opened, read, named⟩
    exact ⟨reader, opened, cells, read, named⟩

end FileStore

end Tabular
