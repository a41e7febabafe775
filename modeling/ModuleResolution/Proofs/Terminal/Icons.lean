import Mathlib.Data.List.Basic
import ModuleResolution.Proofs.Lookup.Lines
import ModuleResolution.Resolution

/-!
# Icons on a terminal

A terminal that cannot show all of Unicode gets plain replacements for the icons of a text. They are
put in one icon after the other, each in the whole text. A table of characters and replacements is
also read the other way, character by character (`substitute`). Replacing one entry first is to put
it at the head of the table that is read so, unless its replacement holds a character of a later
entry (`flatMap_substitute_replaceIcon`); hence both readings agree on every text if no replacement
does (`foldl_replaceIcon`).

If no replacement holds any character of the table (`Final`), nothing is left to replace in what
comes out (`Final.free_flatMap`). The icons are such a table, so a terminal shows a text without
icons (`iconFree_withoutIcons`), the texts that it leaves alone are those without icons, and showing
what is shown already changes nothing (`display_display`).
-/

set_option autoImplicit false

namespace ModuleResolution.Terminal

/-! ## Tables of replacements -/

section Table

variable {table rest : List (Char × String)} {cs : List Char}

/-- What a character becomes when a table is read once: its replacement, or the character itself. -/
def substitute (table : List (Char × String)) (c : Char) : List Char :=
  match table.lookup c with
  | some replacement => replacement.toList
  | none => [c]

/-- The plain form of a character is read from the table of icons. -/
theorem plainChar_eq_substitute : plainChar = substitute icons :=
  rfl

/-- None of the characters is in the table. -/
def Free (table : List (Char × String)) (cs : List Char) : Prop :=
  ∀ entry ∈ table, entry.1 ∉ cs

instance : DecidablePred (Free table) := fun cs =>
  inferInstanceAs (Decidable (∀ entry ∈ table, entry.1 ∉ cs))

/-- No replacement holds a character of a later entry. -/
def InOrder (table : List (Char × String)) : Prop :=
  table.Pairwise fun earlier later => later.1 ∉ earlier.2.toList

/-- No replacement holds a character of the table. -/
def Final (table : List (Char × String)) : Prop :=
  ∀ entry ∈ table, Free table entry.2.toList

instance : Decidable (Final table) :=
  inferInstanceAs (Decidable (∀ entry ∈ table, Free table entry.2.toList))

theorem Final.inOrder (final : Final table) : InOrder table :=
  List.pairwise_of_forall_mem_list fun _ earlier later mem => final _ earlier later mem

theorem substitute_cons (entry : Char × String) (rest : List (Char × String)) (c : Char) :
    substitute (entry :: rest) c =
      if c = entry.1 then entry.2.toList else substitute rest c := by
  unfold substitute
  rw [List.lookup_cons]
  by_cases h : c = entry.1
  · rw [if_pos h, beq_iff_eq.2 h]
  · rw [if_neg h, beq_eq_false_iff_ne.2 h]

/-- A character that is not in the table stays. -/
theorem substitute_of_ne {c : Char} (other : ∀ entry ∈ table, c ≠ entry.1) :
    substitute table c = [c] := by
  have missing : table.lookup c = none := by
    rw [List.lookup_eq_none_iff]
    intro entry mem
    exact bne_iff_ne.2 (other entry mem)
  rw [substitute, missing]

/-- A text without characters of the table stays. -/
theorem flatMap_substitute_of_free (free : Free table cs) : cs.flatMap (substitute table) = cs := by
  have stays : ∀ c ∈ cs, substitute table c = [c] := by
    intro c hc
    apply substitute_of_ne
    intro entry mem same
    exact free entry mem (same ▸ hc)
  rw [List.flatMap_congr stays, List.flatMap_singleton']

/-- Replacing one entry and then reading the others is to read all of them, if the replacement
holds no character of the others. -/
theorem flatMap_substitute_replaceIcon {entry : Char × String}
    (free : Free rest entry.2.toList) (cs : List Char) :
    (replaceIcon cs entry).flatMap (substitute rest) = cs.flatMap (substitute (entry :: rest)) := by
  rw [replaceIcon, List.flatMap_assoc]
  apply List.flatMap_congr
  intro c _
  rw [substitute_cons]
  split
  · -- what has been put in is read again, which leaves it as it is
    exact flatMap_substitute_of_free free
  · exact List.flatMap_singleton ..

/-- Replacing the entries one after the other is to replace every character by itself, if no
replacement holds a character of a later entry. -/
theorem foldl_replaceIcon (inOrder : InOrder table) (cs : List Char) :
    table.foldl replaceIcon cs = cs.flatMap (substitute table) := by
  -- on the table, for every text: the first entry has changed the text that the others see
  induction table generalizing cs with
  | nil => exact (List.flatMap_singleton' cs).symm
  | cons entry rest ih =>
    obtain ⟨free, inOrder⟩ := List.pairwise_cons.1 inOrder
    calc (entry :: rest).foldl replaceIcon cs
        = rest.foldl replaceIcon (replaceIcon cs entry) := List.foldl_cons ..
      _ = (replaceIcon cs entry).flatMap (substitute rest) := ih inOrder _
      _ = cs.flatMap (substitute (entry :: rest)) := flatMap_substitute_replaceIcon free cs

/-- Out of order they differ: a replacement that holds a later character is replaced in its turn. -/
example :
    [('a', "b"), ('b', "c")].foldl replaceIcon ['a'] = ['c'] ∧
      ['a'].flatMap (substitute [('a', "b"), ('b', "c")]) = ['b'] := by
  decide

/-- Nothing is left to replace in what comes out for a character. -/
theorem Final.free_substitute (final : Final table) (c : Char) :
    Free table (substitute table c) := by
  unfold substitute
  cases found : table.lookup c with
  | some replacement =>
    obtain ⟨before, behind, split, -⟩ := List.lookup_eq_some_iff.1 found
    have mem : (c, replacement) ∈ table := by
      rw [split]
      exact List.mem_append_right _ List.mem_cons_self
    exact final _ mem
  | none =>
    intro entry mem same
    rw [List.mem_singleton] at same
    exact bne_iff_ne.1 (List.lookup_eq_none_iff.1 found entry mem) same.symm

/-- Nothing is left to replace in what comes out for a text. -/
theorem Final.free_flatMap (final : Final table) (cs : List Char) :
    Free table (cs.flatMap (substitute table)) := by
  intro entry mem inside
  obtain ⟨c, -, here⟩ := List.mem_flatMap.1 inside
  exact final.free_substitute c entry mem here

end Table

/-! ## The icons -/

/-- A text without icons. -/
def IconFree (s : String) : Prop :=
  Free icons s.toList

instance : DecidablePred IconFree := fun s => inferInstanceAs (Decidable (Free icons s.toList))

theorem final_icons : Final icons := by
  decide

/-- Each character of a text is replaced by its plain form. -/
theorem toList_withoutIcons (s : String) :
    (withoutIcons s).toList = s.toList.flatMap plainChar := by
  rw [withoutIcons, String.toList_ofList, plainChar_eq_substitute]
  exact foldl_replaceIcon final_icons.inOrder _

theorem withoutIcons_append (s t : String) :
    withoutIcons (s ++ t) = withoutIcons s ++ withoutIcons t := by
  rw [← String.toList_inj]
  simp only [toList_withoutIcons, String.toList_append, List.flatMap_append]

theorem iconFree_withoutIcons (s : String) : IconFree (withoutIcons s) := by
  unfold IconFree
  rw [toList_withoutIcons]
  exact final_icons.free_flatMap _

theorem withoutIcons_of_iconFree {s : String} (free : IconFree s) : withoutIcons s = s := by
  rw [← String.toList_inj, toList_withoutIcons]
  exact flatMap_substitute_of_free free

/-- The texts that stay are those without icons. -/
theorem withoutIcons_eq_self_iff {s : String} : withoutIcons s = s ↔ IconFree s := by
  refine ⟨fun stays => ?_, withoutIcons_of_iconFree⟩
  rw [← stays]
  exact iconFree_withoutIcons s

theorem withoutIcons_withoutIcons (s : String) : withoutIcons (withoutIcons s) = withoutIcons s :=
  withoutIcons_of_iconFree (iconFree_withoutIcons s)

/-! ## What a terminal shows -/

/-- A terminal shows what it has shown as it is. -/
theorem display_display (reported : Encodings) (s : String) :
    display reported (display reported s) = display reported s := by
  unfold display
  split
  · rfl
  · exact withoutIcons_withoutIcons s

/-- Printing texts as the terminal can show them is to print the texts. -/
theorem printed_map_display (reported : Encodings) (texts : List String) :
    printed reported (texts.map (display reported)) = printed reported texts := by
  have again : texts.map (display reported ∘ display reported) = texts.map (display reported) :=
    List.map_congr_left fun s _ => display_display reported s
  rw [printed, printed, List.map_map, again]

theorem printed_singleton (reported : Encodings) (text : String) :
    printed reported [text] = display reported text ++ "\n" := by
  rw [printed, List.map_singleton, String.intercalate_singleton]

/-- The lines that a trace has written are printed as they are: the terminal has replaced the icons
of each line once. -/
theorem printed_written {α : Type} (reported : Encodings) (fs : FileSystem) (x : Lookup α) :
    (x.written reported fs).map (fun line => printed reported [line]) =
      (x.lines fs).map fun line => display reported line ++ "\n" := by
  rw [Lookup.written, List.map_map]
  apply List.map_congr_left
  intro line _
  calc printed reported [display reported line]
      = printed reported [line] := printed_map_display reported [line]
    _ = display reported line ++ "\n" := printed_singleton reported line

/-- A terminal that cannot show all of Unicode replaces every character of a text by its plain form.
So it shows two texts in a row as it shows each of them, it shows no icon, it leaves exactly the
texts without icons alone, and showing again what it shows, also by printing the lines that a trace
has written, changes nothing. -/
theorem display_plain (reported : Encodings) (narrow : isUniversal reported = false) :
    (∀ s, (display reported s).toList = s.toList.flatMap plainChar) ∧
    (∀ s t, display reported (s ++ t) = display reported s ++ display reported t) ∧
    (∀ s, IconFree (display reported s)) ∧
    (∀ s, display reported s = s ↔ IconFree s) ∧
    (∀ s, display reported (display reported s) = display reported s) ∧
    ∀ (α : Type) (fs : FileSystem) (x : Lookup α),
      (x.written reported fs).map (fun line => printed reported [line]) =
        (x.lines fs).map fun line => display reported line ++ "\n" := by
  have shown : ∀ s, display reported s = withoutIcons s := by
    intro s
    rw [display, narrow]
    rfl
  refine ⟨fun s => ?_, fun s t => ?_, fun s => ?_, fun s => ?_, fun s => ?_, fun α fs x => ?_⟩
  · rw [shown]
    exact toList_withoutIcons s
  · rw [shown, shown, shown]
    exact withoutIcons_append s t
  · rw [shown]
    exact iconFree_withoutIcons s
  · rw [shown]
    exact withoutIcons_eq_self_iff
  · exact display_display reported s
  · exact printed_written reported fs x

theorem display_plain_latin :
    isUniversal ⟨some "Latin-1", none⟩ = false ∧
    display ⟨some "Latin-1", none⟩ "⚠ a → b…" = "[WARN] a -> b..." ∧
    display ⟨some "Latin-1", none⟩ ("✗" ++ "→") =
      display ⟨some "Latin-1", none⟩ "✗" ++ display ⟨some "Latin-1", none⟩ "→" ∧
    IconFree (display ⟨some "Latin-1", none⟩ "←•→") ∧
    display ⟨some "Latin-1", none⟩ "[OK] -> é ✔" = "[OK] -> é ✔" ∧
    display ⟨some "Latin-1", none⟩ (display ⟨some "Latin-1", none⟩ "✓ → •") = "[OK] -> *" ∧
    ((Resolution.resolve .empty "/p/a.d.ts" (.list ["fs", "./x"])).written ⟨some "Latin-1", none⟩
        ((Files.Memory.ofList [("/p/x.d.ts", "")]).fileSystem 0)).map
          (fun line => printed ⟨some "Latin-1", none⟩ [line]) =
      ["/p/a.d.ts\n", "   fs -> IGNORED: built-in module\n", "   ./x -> /p/x.d.ts\n"] := by
  have narrow : isUniversal ⟨some "Latin-1", none⟩ = false := by decide +kernel
  obtain ⟨chars, append, free, same, again, trace⟩ := display_plain ⟨some "Latin-1", none⟩ narrow
  refine ⟨narrow, ?_, append "✗" "→", free "←•→", ?_, ?_, ?_⟩
  · rw [← String.toList_inj, chars]
    decide +kernel
  · rw [same]
    decide +kernel
  · rw [again, ← String.toList_inj, chars]
    decide +kernel
  · rw [trace]
    decide +kernel

end ModuleResolution.Terminal
