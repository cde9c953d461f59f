/-!
# The first settings file

What a settings file holds before the user has set anything: every entry as a comment, with its
standard value.
-/

namespace PanelDock.Settings

/-- The text of the first settings file. -/
def template : String :=
  "# Dockhand Configuration\n" ++
  "# Schema version 1\n" ++
  "# Only override what you want to change -- missing fields use defaults.\n" ++
  "\n" ++
  "[zindex]\n" ++
  "# front_gap = 10           # 10-1000, counter step for bring-to-front\n" ++
  "# warn_on_clamp = true\n" ++
  "\n" ++
  "[flyout]\n" ++
  "# default_x = 120.0\n" ++
  "# default_y = 80.0\n" ++
  "# default_width = 480.0    # 100-8000\n" ++
  "# default_height = 360.0   # 100-8000\n" ++
  "# cascade_offset = 24.0    # 0-200\n" ++
  "# min_width = 200.0        # 50-2000, resize floor\n" ++
  "# min_height = 150.0       # 50-2000, resize floor\n" ++
  "# resize_handle = true\n" ++
  "# focus_on_show = true\n" ++
  "\n" ++
  "[persistence]\n" ++
  "# enabled = true\n" ++
  "# save_on_transition = true\n" ++
  "# state_file = \"/path/to/panels.json\"\n" ++
  "\n" ++
  "[logging]\n" ++
  "# level = \"INFO\"           # DEBUG, INFO, WARNING, ERROR\n"

end PanelDock.Settings
