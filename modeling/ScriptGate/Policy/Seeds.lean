/-! The names every policy starts from. -/
namespace ScriptGate.Seeds

/-- Calls that reach out of a script: dynamic dispatch, reflection, evaluation and
loading of code, processes, input and output, continuations and tracing. -/
def deniedCalls : List String :=
  ["__callee__", "__method__", "__send__", "abort", "alias_method", "at_exit", "autoload",
   "binding", "callcc", "caller", "class_eval", "const_get", "const_set", "dup", "eval",
   "exec", "exit", "fail", "fork", "gets", "global_variables", "instance_eval", "load",
   "loop", "method", "module_eval", "open", "public_send", "readline", "readlines", "redo",
   "remove_const", "require", "retry", "send", "set_trace_func", "sleep", "spawn", "srand",
   "syscall", "system", "trap", "undef"]

/-- Constants that are a way to processes, the environment, files or reflection, or
that tell what interpreter runs. -/
def deniedConstants : List String :=
  ["ARGF", "ARGV", "Array", "Base64", "Class", "Dir", "ENV", "Enumerable", "Error",
   "Exception", "Fiber", "File", "FileUtils", "GC", "Gem", "Hash", "IO", "IRB", "Kernel",
   "Module", "Net", "Object", "ObjectSpace", "OpenSSL", "OpenURI", "PLATFORM", "Proc",
   "Process", "RUBY_COPYRIGHT", "RUBY_DESCRIPTION", "RUBY_ENGINE", "RUBY_PATCHLEVEL",
   "RUBY_PLATFORM", "RUBY_RELEASE_DATE", "RUBY_VERSION", "Rails", "STDERR", "STDIN", "STDOUT",
   "String", "TOPLEVEL_BINDING", "Thread", "VERSION"]

/-- The keywords a script may use as values. -/
def allowedKeywords : List String := ["false", "nil", "self", "true"]

end ScriptGate.Seeds
