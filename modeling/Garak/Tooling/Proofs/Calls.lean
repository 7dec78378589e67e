import Garak.Tooling.Proofs.Aggregate

/-!
# What `format` and `lint` do

Both methods always return: they leave the object `_aggregate_files` left, and on the
trace a message, their commands, and the count of ignored files. No exit status
reaches them.
-/

namespace Tooling

/-- The texts written by `Log.warn`. -/
def Trace.warnings (trace : Trace) : List String :=
  (trace.messages.filter fun message => decide (message.level = .warn)).map Message.text

theorem Trace.say_warnings (trace : Trace) {level : Level} (other : level ≠ .warn) (text : String) :
    (trace.say level text).warnings = trace.warnings := by
  simp [Trace.warnings, Trace.say, other]

theorem Trace.warn_warnings (trace : Trace) (text : String) :
    (trace.say .warn text).warnings = trace.warnings ++ [text] := by
  simp [Trace.warnings, Trace.say]

/-- Running commands warns about nothing. -/
theorem Trace.issueAll_warnings (host : Host) (trace : Trace) (commands : List String) :
    (trace.issueAll host commands).warnings = trace.warnings := by
  induction commands generalizing trace with
  | nil => rfl
  | cons command commands ih =>
      have step : (trace.issue host command).warnings = trace.warnings := by
        simp [Trace.warnings, Trace.issue]
      rw [← step]
      exact ih (trace.issue host command)

namespace Clang

open Pathlib

variable {settings : Settings} {fs : FileSystem} {host : Host}

/-- The commands of the two loops of `format`. -/
def formatCommands (self : Clang) : List String :=
  self.sourceFiles.map self.formatCxxCommand ++ self.cmakeFiles.map self.formatCmakeCommand

/-- The line `_show_ignored` prints. -/
def ignoredText (self : Clang) : String :=
  "Ignored: [" ++ toString self.ignoredFiles.length ++ "] file(s)"

theorem exec_format (self : Clang) (trace : Trace) :
    (format settings fs host self).exec trace =
      (.ok (aggregated settings fs .clangFormat self),
        (((trace.say .info "Formatting all files").issueAll host
          (aggregated settings fs .clangFormat self).formatCommands).say .warn
            (aggregated settings fs .clangFormat self).ignoredText)) := by
  unfold format Log.info
  rw [aggregateFiles_eq]
  rw [Proc.exec_bind_ok (Proc.exec_ofExcept_ok _ _)]
  rw [Proc.exec_bind_ok (exec_log _ _ _)]
  rw [Proc.exec_bind_ok (exec_forM_execute host _ _ _)]
  rw [Proc.exec_bind_ok (exec_forM_execute host _ _ _)]
  rw [← Trace.issueAll_append]
  rfl

theorem exec_lint (self : Clang) (trace : Trace) :
    (lint settings fs host self).exec trace =
      (.ok (aggregated settings fs .clangTidy self),
        (((trace.say .info "Statically analyzing all files").issueAll host
          [(aggregated settings fs .clangTidy self).lintCommand]).say .warn
            (aggregated settings fs .clangTidy self).ignoredText)) := by
  unfold lint
  rw [aggregateFiles_eq]
  rw [Proc.exec_bind_ok (Proc.exec_ofExcept_ok _ _)]
  rfl

/-! ## The text of the file list -/

theorem foldl_text_toList {α : Type} (render : α → String) (items : List α) (text : String) :
    (items.foldl (fun text item => text ++ render item) text).toList =
      text.toList ++ items.flatMap fun item => (render item).toList := by
  induction items generalizing text with
  | nil => simp
  | cons item items ih =>
      rw [List.foldl_cons, ih, String.toList_append, List.flatMap_cons, List.append_assoc]

theorem lintFiles_toList (files : List Path) :
    (lintFiles files).toList = files.flatMap fun file => file.str.toList ++ [' '] := by
  have render : ∀ file : Path, (file.str ++ " ").toList = file.str.toList ++ [' '] :=
    fun file => String.toList_append
  unfold lintFiles
  rw [foldl_text_toList]
  simp [render]

/-- Each file adds to the list at least its blank. -/
theorem length_le_lintFiles (files : List Path) : files.length ≤ (lintFiles files).length := by
  rw [← String.length_toList, lintFiles_toList]
  induction files with
  | nil => simp
  | cons file files ih =>
      simp only [List.flatMap_cons, List.length_append, List.length_cons] at ih ⊢
      omega

end Clang

end Tooling
