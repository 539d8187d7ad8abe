/-!
# Calls within each other

What goes into a nested value by calling itself only goes as deep as there is room on the stack. How
much room there is depends on where a task begins, and so it is given for each of the tasks.
-/

set_option autoImplicit false

namespace Enclosure

/-- How many calls can lie within each other where each task begins. -/
structure Stack where
  /-- Reading a configuration file. -/
  documents : Nat
  /-- Reading what the environment sets. -/
  environment : Nat
  /-- Merging the configuration files. -/
  files : Nat
  /-- Merging the sources of settings. -/
  sources : Nat
  /-- Showing a value in a message. -/
  messages : Nat

/-- As much room on the stack as there usually is. -/
def Stack.usual : Stack where
  documents := 900
  environment := 900
  files := 900
  sources := 900
  messages := 900

end Enclosure
