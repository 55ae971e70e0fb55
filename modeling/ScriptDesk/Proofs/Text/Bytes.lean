import ScriptDesk.Proofs.Text.Lines
import ScriptDesk.Text.Bytes

/-!
# Lines of bytes

Bytes are cut at line feeds before they are read as text. A byte below 128 is in no character but
its own (`eq_of_mem_utf8EncodeChar`), so no other character has the byte of the line feed in it.
Hence a line of bytes is a text if and only if it is one together with its line feed
(`ofBytes?_append_feed`).

Every sequence of bytes is a line without line feed, or such a line, a line feed and other bytes
(`Bytes.line_induction`).
-/

namespace ScriptDesk

namespace Text

/-- Different texts have different bytes. -/
theorem toBytes_injective : Function.Injective toBytes := by
  intro a b h
  have hread := congrArg ofBytes? h
  simpa using hread

/-- Only the line feed has its byte. -/
theorem eq_newline_of_mem {c : Char} (h : Bytes.lineFeed ∈ String.utf8EncodeChar c) : c = '\n' :=
  eq_of_mem_utf8EncodeChar (by decide) h

theorem feed_mem_toBytes {text : Text} : Bytes.lineFeed ∈ toBytes text ↔ '\n' ∈ text := by
  rw [toBytes, List.mem_flatMap]
  constructor
  · rintro ⟨c, hc, hfeed⟩
    exact eq_newline_of_mem hfeed ▸ hc
  · exact fun h => ⟨'\n', h, by decide⟩

/-- A line of bytes is read together with its line feed if and only if it is read without. -/
theorem ofBytes?_append_feed (bytes : Bytes) :
    ofBytes? (bytes ++ [Bytes.lineFeed]) = (ofBytes? bytes).map (· ++ ['\n']) := by
  have hfeed : toBytes ['\n'] = [Bytes.lineFeed] := rfl
  apply Option.ext
  intro text
  rw [ofBytes?_eq_some_iff, Option.map_eq_some_iff]
  constructor
  · intro h
    rcases List.eq_nil_or_concat text with rfl | ⟨front, c, rfl⟩
    · simp at h
    · rw [List.concat_eq_append, toBytes_append] at h
      have hlast : Bytes.lineFeed ∈ toBytes [c] := by
        have hne : toBytes [c] ≠ [] := by simp [toBytes]
        obtain ⟨ds, d, hd⟩ := (List.eq_nil_or_concat (toBytes [c])).resolve_left hne
        rw [hd, List.concat_eq_append, ← List.append_assoc] at h
        have hlast : [d] = [Bytes.lineFeed] := (List.append_inj' h rfl).2
        rw [hd, ← List.head_eq_of_cons_eq hlast]
        simp
      obtain rfl : '\n' = c := List.mem_singleton.mp (feed_mem_toBytes.mp hlast)
      rw [hfeed] at h
      exact ⟨front, ofBytes?_eq_some_iff.mpr (List.append_cancel_right h), by simp⟩
  · rintro ⟨front, hfront, rfl⟩
    rw [toBytes_append, hfeed, ofBytes?_eq_some_iff.mp hfront]

end Text

namespace Bytes

/-- Bytes are a line, or a line with its line feed and bytes behind it. -/
theorem line_induction {P : Bytes → Prop} (last : ∀ line : Bytes, lineFeed ∉ line → P line)
    (more : ∀ line rest : Bytes, lineFeed ∉ line → P rest → P (line ++ lineFeed :: rest)) :
    ∀ bytes, P bytes :=
  cut_induction lineFeed last more

end Bytes

end ScriptDesk
