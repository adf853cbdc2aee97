import TypingBundle.Options.Basic
import TypingBundle.Text.Quoted

/-!
Options and settings as they are shown in logs.
-/

namespace TypingBundle

/-- Options, with every field. -/
def Options.shown (o : Options) : Text :=
  let path := Text.optional fun (p : Path) => Text.quoted p.text
  let text := Text.optional Text.quoted
  let flag := Text.optional Text.ofBool
  Text.fieldsShown "BundleOptions" [
    ("main", path o.main),
    ("name", text o.name),
    ("base_dir", path o.baseDir),
    ("out", text o.out),
    ("newline", text o.newline),
    ("indent", text o.indent),
    ("prefix", text o.namePrefix),
    ("separator", text o.separator),
    ("externals", flag o.externals),
    ("exclude", o.exclude.shown),
    ("remove_source", flag o.removeSource),
    ("reference_externals", flag o.referenceExternals),
    ("verbose", flag o.verbose),
    ("emit_on_included_file_not_found", flag o.emitIfIncludedMissing),
    ("emit_on_no_included_file_not_found", flag o.emitIfOtherMissing),
    ("header_path", path o.headerPath),
    ("header_text", text o.headerText),
    ("transform_module_body", text (o.bodyHook.map fun _ => ['.', '.']))] " \x7d"

/-- The source of a header. -/
def Header.shown : Header → Text
  | generated => "Generated".toList
  | suppressed => "Suppressed".toList
  | text t => "Text(".toList ++ Text.quoted t ++ [')']
  | file l => "File(".toList ++ Text.quoted l.text ++ [')']

/-- Settings, without the conditions of writing and the hook. -/
def Settings.shown (s : Settings) : Text :=
  Text.fieldsShown "ResolvedBundleOptions" [
    ("main_file", Text.quoted s.mainFile.text),
    ("name", Text.quoted s.name),
    ("base_dir", Text.quoted s.baseDir.text),
    ("out_file", Text.quoted s.outFile.text),
    ("newline", Text.quoted s.newline),
    ("indent", Text.quoted s.indent),
    ("prefix", Text.quoted s.namePrefix),
    ("separator", Text.quoted s.separator),
    ("externals", Text.ofBool s.externals),
    ("exclude", s.exclude.shown),
    ("remove_source", Text.ofBool s.removeSource),
    ("reference_externals", Text.ofBool s.referenceExternals),
    ("verbose", Text.ofBool s.verbose),
    ("header", s.header.shown)] ", .. \x7d"

end TypingBundle
