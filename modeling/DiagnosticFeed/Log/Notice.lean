import DiagnosticFeed.Log.Record
import DiagnosticFeed.Time

/-!
# Notices

Everything the program logs by itself, each kind of notice with what it tells. A notice becomes a
record in one place, so that event names, levels and field names are together.
-/

namespace DiagnosticFeed.Log

/-- What the program logs. Causes are given as text. -/
inductive Notice where
  | analyzerStarted (executable : String) (debounceMs : Int)
  | analyzerStopped
  | executableChanged (executable : String)
  | analysisScheduled (uri : String) (delay : Time)
  | analysisSkipped (uri : String)
  | scratchDirectoryFailed (path cause : String)
  | snapshotFailed (cause : String)
  | snapshotWritten (path : String) (size : Nat)
  | snapshotKept (path cause : String)
  | cleanupFailed (path cause : String)
  | spawning (command : List String) (directory : Option String)
  | exited (exitCode : Int) (outputSize : Nat)
  | executableMissing (executable cause : String) (alreadyTold : Bool)
  | directoryMissing (directory cause : String)
  | spawnFailed (executable cause : String)
  | errorOutput (text : String)
  | badExit (exitCode : Int)
  | staleResult (analyzed current : Int) (closed : Bool)
  | unreadableOutput (cause : String) (size : Nat)
  | published (version : Int) (count : Nat)
  | editSkipped (uri target : String)
  | userWarning (message : String)
  | taskFailed (task cause kind : String)
  | timedOut (limit : Json.Value)
  | checkTimedOut (cause : String)
  | configurationInvalid (cause : String)
  | fileUnreadable (path cause : String)

def Notice.record : Notice → Record
  | analyzerStarted executable ms =>
    ⟨.info, "analyzer_started", [("executable", .str executable), ("debounce_ms", .int ms)]⟩
  | analyzerStopped => ⟨.info, "analyzer_stopped", []⟩
  | executableChanged executable =>
    ⟨.info, "analyzer_executable_changed", [("executable", .str executable)]⟩
  | analysisScheduled uri delay =>
    ⟨.debug, "analysis_scheduled", [("uri", .str uri), ("delay", .float delay.toSeconds)]⟩
  | analysisSkipped uri => ⟨.debug, "analysis_skipped_unavailable", [("uri", .str uri)]⟩
  | scratchDirectoryFailed path cause =>
    ⟨.warning, "temp_dir_prepare_failed", [("path", .str path), ("error", .str cause)]⟩
  | snapshotFailed cause => ⟨.error, "snapshot_prepare_failed", [("error", .str cause)]⟩
  | snapshotWritten path size =>
    ⟨.debug, "temp_file_written", [("path", .str path), ("size", .int size)]⟩
  | snapshotKept path cause =>
    ⟨.warning, "temp_file_delete_failed", [("path", .str path), ("error", .str cause)]⟩
  | cleanupFailed path cause =>
    ⟨.warning, "snapshot_cleanup_failed", [("path", .str path), ("error", .str cause)]⟩
  | spawning command directory =>
    ⟨.debug, "analyzer_spawning",
      [("command", .arr (command.map .str)), ("cwd", Json.Value.ofOption .str directory)]⟩
  | exited exitCode size =>
    ⟨.debug, "analyzer_exited", [("exit_code", .int exitCode), ("stdout_size", .int size)]⟩
  | executableMissing executable cause alreadyTold =>
    ⟨.warning, "analyzer_not_found",
      [("executable", .str executable), ("error", .str cause), ("notified", .bool alreadyTold)]⟩
  | directoryMissing directory cause =>
    ⟨.error, "analyzer_spawn_failed", [("cwd", .str directory), ("error", .str cause)]⟩
  | spawnFailed executable cause =>
    ⟨.error, "analyzer_spawn_failed", [("executable", .str executable), ("error", .str cause)]⟩
  | errorOutput text => ⟨.info, "analyzer_stderr", [("stderr", .str text)]⟩
  | badExit exitCode => ⟨.error, "analyzer_exit_error", [("exit_code", .int exitCode)]⟩
  | staleResult analyzed current closed =>
    ⟨.debug, "analysis_result_stale",
      [("analyzed_version", .int analyzed), ("current_version", .int current),
        ("closed", .bool closed)]⟩
  | unreadableOutput cause size =>
    ⟨.error, "diagnostics_parse_error", [("error", .str cause), ("size", .int size)]⟩
  | published version count =>
    ⟨.debug, "diagnostics_published", [("version", .int version), ("count", .int count)]⟩
  | editSkipped uri target =>
    ⟨.debug, "fix_edit_skipped_other_file", [("uri", .str uri), ("target", .str target)]⟩
  | userWarning message => ⟨.warning, "user_warning", [("message", .str message)]⟩
  | taskFailed task cause kind =>
    ⟨.error, "background_task_failed",
      [("task", .str task), ("error", .str cause), ("exception_type", .str kind)]⟩
  | timedOut limit => ⟨.warning, "operation_timeout", [("timeout", limit)]⟩
  | checkTimedOut cause => ⟨.error, "check_timed_out", [("error", .str cause)]⟩
  | configurationInvalid cause => ⟨.error, "configuration_invalid", [("error", .str cause)]⟩
  | fileUnreadable path cause =>
    ⟨.error, "file_unreadable", [("path", .str path), ("error", .str cause)]⟩

end DiagnosticFeed.Log
