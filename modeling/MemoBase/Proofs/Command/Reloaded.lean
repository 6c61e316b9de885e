import MemoBase.Command.Listing
import MemoBase.Command.Template
import MemoBase.Proofs.Filter.Reloaded
import MemoBase.Proofs.Sheet.RoundTrip

namespace MemoBase

namespace Memo

variable {m : Memo} {ms : List Memo}

theorem find?_reloaded (ms : List Memo) (collection title : Text) :
    find? (ms.map reloaded) collection title = (find? ms collection title).map reloaded := by
  simp only [find?, List.find?_map]
  congr
  funext m
  simp only [Function.comp_apply, collection_reloaded, title_reloaded]

theorem get?_reloaded (m : Memo) (key : Text) :
    m.reloaded.get? key = (m.get? key).map Node.reloaded := by
  simp only [get?, nodes_reloaded, List.find?_map]
  rfl

theorem get?_plain_reloaded (m : Memo) (key : Text) :
    (m.reloaded.get? key).map (·.value.plain) = (m.get? key).map (·.value.plain) := by
  simp [get?_reloaded, Function.comp_def]

end Memo

namespace MemoFilter

variable {f : MemoFilter} {m : Memo} {ms : List Memo}

theorem named_reloaded (ms : List Memo) (name : Text) :
    named (ms.map Memo.reloaded) name = named ms name := by
  rw [named, named, Memo.find?_reloaded]
  cases Memo.find? ms filterCollection name
  case none => rfl
  case some m =>
    have : m.reloaded.data.find? (·.key = queryKey) =
        (m.data.find? (·.key = queryKey)).map Node.reloaded :=
      List.find?_map ..
    simp only [Option.map_some, this]
    cases m.data.find? (·.key = queryKey) <;> simp

theorem selectedData_reloaded (hf : f.Unsearching) :
    f.selectedData m.reloaded = (f.selectedData m).map Node.reloaded := by
  simp [selectedData, positions_reloaded hf, List.map_filterMap]

theorem block_reloaded (hf : f.Unsearching) (verbosity : Int) :
    f.block verbosity m.reloaded = f.block verbosity m := by
  have hw (ns : List Node) :
      (ns.map Node.reloaded).map (·.write ['.']) = ns.map (·.write ['.']) := by
    simp [Function.comp_def, Node.write_reloaded]
  have hd : m.reloaded.data = m.data.map Node.reloaded := rfl
  have hh : headline m.reloaded = headline m := by
    rw [headline, Memo.title_reloaded, Memo.collection_reloaded, ← headline]
  simp only [block, selectedData_reloaded hf, hd, hh, hw]

theorem listing_reloaded (hf : f.Unsearching) (verbosity : Int) (ms : List Memo) :
    f.listing verbosity (ms.map Memo.reloaded) = f.listing verbosity ms := by
  simp [listing, filter_reloaded hf, List.flatMap_map, block_reloaded hf]

theorem stats_reloaded (hf : f.Unsearching) (ms : List Memo) :
    f.stats (ms.map Memo.reloaded) = f.stats ms := by
  simp [stats, filter_reloaded hf, List.flatMap_map]

end MemoFilter

namespace Template

variable {f : MemoFilter}

theorem fill_reloaded (p : Piece) (m : Memo) : p.fill m.reloaded = p.fill m := by
  cases p
  case char => rfl
  case place key =>
    rw [Piece.fill, Piece.fill, Memo.get?_reloaded]
    cases m.get? key <;> simp

theorem render_reloaded (s : Text) (m : Memo) : render s m.reloaded = render s m :=
  List.flatMap_congr fun p _ => fill_reloaded p m

theorem document_reloaded (hf : f.Unsearching) (ms : List Memo) (name : Text) :
    document (ms.map Memo.reloaded) name f = document ms name f := by
  rw [document, document, Memo.find?_reloaded]
  cases Memo.find? ms collection name
  case none => rfl
  case some t =>
    simp only [Option.map_some, Memo.get?_plain_reloaded, MemoFilter.filter_reloaded hf,
      List.map_map, Function.comp_def, render_reloaded]

end Template

namespace Disk

variable {ms : List Memo}

-- Nothing that a command prints depends on whether the memos were written and read again before, as
-- long as no filter looks into texts.
theorem commands_readText_writeAll (d : Disk) (dir : Path) (h : ∀ m ∈ ms, m.Representable) :
    ∃ ms', (d.readText dir (Memo.writeAll ms)).memos = .ok ms' ∧
      (∀ f : MemoFilter, f.Unsearching →
        List.Forall₂ (fun m m' => f.check m' = f.check m ∧ f.positions m' = f.positions m) ms ms' ∧
        (∀ verbosity, f.listing verbosity ms' = f.listing verbosity ms) ∧
        f.stats ms' = f.stats ms ∧
        ∀ name, Template.document ms' name f = Template.document ms name f) ∧
      ∀ name, MemoFilter.named ms' name = MemoFilter.named ms name := by
  refine ⟨ms.map Memo.reloaded, ?memos, fun f hf => ⟨?memo, ?listing, ?stats, ?document⟩, ?named⟩
  case memos =>
    simp [readText_writeAll d dir h, Reading.memos, Reading.own, Except.map, Memo.memo_record]
  case memo =>
    rw [List.forall₂_map_right_iff, List.forall₂_same]
    exact fun m _ => ⟨MemoFilter.check_reloaded hf, MemoFilter.positions_reloaded hf⟩
  case listing  => exact fun verbosity => MemoFilter.listing_reloaded hf verbosity ms
  case stats    => exact MemoFilter.stats_reloaded hf ms
  case document => exact Template.document_reloaded hf ms
  case named    => exact MemoFilter.named_reloaded ms

theorem commands_readText_writeAll_numbers :
    let m : Memo := ⟨⟨"book".toList, .number (.zero true), []⟩, [⟨"pages".toList, .integer 3, []⟩,
      ⟨"lent".toList, .bool true, []⟩, ⟨"price".toList, .number .nan, []⟩]⟩
    let f : MemoFilter :=
      ⟨[{ scope := .data, value := .compare .le ((Single.ofInt 3).convert .double) }]⟩
    let d : Disk := ⟨⟨['/'], []⟩, []⟩
    (∀ m' ∈ [m], m'.Representable) ∧ f.Unsearching ∧ f.stats [m] = ⟨1, 4⟩ ∧
    ∃ ms', (d.readText d.workingDir (Memo.writeAll [m])).memos = .ok ms' ∧
      f.stats ms' = f.stats [m] ∧ f.listing 1 ms' = f.listing 1 [m] := by
  intro m f d
  have h : ∀ m' ∈ [m], m'.Representable := by decide
  have hf : f.Unsearching := by simp [f, MemoFilter.Unsearching, ValueFilter.IsContains]
  have ⟨ms', hr, hc, _⟩ := commands_readText_writeAll d d.workingDir h
  have ⟨_, hl, hs, _⟩ := hc f hf
  exact ⟨h, hf, by decide +kernel, ms', hr, hs, hl 1⟩

end Disk
end MemoBase
