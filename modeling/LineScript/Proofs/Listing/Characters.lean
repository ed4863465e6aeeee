import LineScript.Proofs.Listing.RoundTrip
import LineScript.Value

/-!
Where the characters of a listing come from: all of them stand in the source, and what a register
stands for has no others.
-/

namespace LineScript

theorem Value.mem_of_mem_unquote {value : String} {char : Char}
    (member : char ∈ (Value.unquote value).toList) : char ∈ value.toList := by
  rw [unquote, String.toList_ofList, unquoteChars.eq_def] at member
  split at member
  · rename_i rest whole
    rw [whole]
    split at member
    · exact List.mem_cons_of_mem _ (List.dropLast_subset _ member)
    · exact member
  · exact member

namespace Segment

variable {pattern : Pattern} {kind : Kind} {char : Char}

theorem Pattern.Writes.mem {text : List Char} {line : Line} (written : pattern.Writes text line)
    (member : char ∈ line.payload) : char ∈ text := by
  cases written with
  | line => exact List.mem_append_left _ (List.mem_append_right _ member)

theorem mem_of_mem_load {source payload : String} {payloads : List String}
    (loaded : load kind pattern source = .ok payloads) (present : payload ∈ payloads)
    (member : char ∈ payload.toList) : char ∈ source.toList := by
  obtain ⟨place, here⟩ := List.mem_iff_getElem?.mp present
  obtain ⟨text, inked, line, written, -, -, rfl⟩ :=
    Listing.exists_fits (load_eq_ok_iff.mp loaded) here
  rw [String.toList_ofList] at member
  exact Text.mem_of_mem_lines (mem_inked_iff.mp inked).1 (written.mem member)

theorem mem_of_mem_extract {source body : String} (extracted : extract kind source = .ok body)
    (member : char ∈ body.toList) : char ∈ source.toList := by
  rw [extract, Frame.extract] at extracted
  split at extracted
  · cases extracted
  · rename_i before inside opened
    split at extracted
    · cases extracted
    · rename_i found after closed
      cases extracted
      rw [String.toList_ofList] at member
      rw [Text.append_of_splitAtFirst? opened, Text.append_of_splitAtFirst? closed]
      exact List.mem_append_right _ (List.mem_append_left _ (List.mem_append_left _ member))

end Segment

/-- No character of a listing is made up. -/
theorem Listing.mem_of_mem_ofSource {source text : String} {listing : Listing} {char : Char}
    (loaded : ofSource source = .ok listing)
    (present : text ∈ listing.registers ++ listing.statements)
    (member : char ∈ text.toList) : char ∈ source.toList := by
  obtain ⟨⟨registerText, registers, first⟩, codeText, code, second⟩ := loads_of_ofSource loaded
  rcases List.mem_append.mp present with value | statement
  · exact Segment.mem_of_mem_extract registers (Segment.mem_of_mem_load first value member)
  · exact Segment.mem_of_mem_extract code (Segment.mem_of_mem_load second statement member)

end LineScript
