/-! # Other names

A keymap may mention any name that the host knows, also those of numbers that are not meant as keys:
such a name stands for the key of that number, if there is one. The host also has names for things
that are no numbers; in a keymap they do nothing.
-/

namespace Chip8.HostName

def eventKinds : List (String × Int) :=
  [("NOEVENT", 0), ("QUIT", 256), ("APP_TERMINATING", 257), ("APP_LOWMEMORY", 258),
    ("APP_WILLENTERBACKGROUND", 259), ("APP_DIDENTERBACKGROUND", 260),
    ("APP_WILLENTERFOREGROUND", 261), ("APP_DIDENTERFOREGROUND", 262), ("LOCALECHANGED", 263),
    ("SYSWMEVENT", 513), ("KEYDOWN", 768), ("KEYUP", 769), ("TEXTEDITING", 770),
    ("TEXTINPUT", 771), ("KEYMAPCHANGED", 772), ("MOUSEMOTION", 1024), ("MOUSEBUTTONDOWN", 1025),
    ("MOUSEBUTTONUP", 1026), ("MOUSEWHEEL", 1027), ("JOYAXISMOTION", 1536),
    ("JOYBALLMOTION", 1537), ("JOYHATMOTION", 1538), ("JOYBUTTONDOWN", 1539),
    ("JOYBUTTONUP", 1540), ("JOYDEVICEADDED", 1541), ("JOYDEVICEREMOVED", 1542),
    ("CONTROLLERAXISMOTION", 1616), ("CONTROLLERBUTTONDOWN", 1617), ("CONTROLLERBUTTONUP", 1618),
    ("CONTROLLERDEVICEADDED", 1619), ("CONTROLLERDEVICEREMOVED", 1620),
    ("CONTROLLERDEVICEREMAPPED", 1621), ("CONTROLLERTOUCHPADDOWN", 1622),
    ("CONTROLLERTOUCHPADMOTION", 1623), ("CONTROLLERTOUCHPADUP", 1624),
    ("CONTROLLERSENSORUPDATE", 1625), ("FINGERDOWN", 1792), ("FINGERUP", 1793),
    ("FINGERMOTION", 1794), ("MULTIGESTURE", 2050), ("CLIPBOARDUPDATE", 2304), ("DROPFILE", 4096),
    ("USEREVENT_DROPFILE", 4096), ("DROPTEXT", 4097), ("DROPBEGIN", 4098), ("DROPCOMPLETE", 4099),
    ("AUDIODEVICEADDED", 4352), ("AUDIODEVICEREMOVED", 4353), ("RENDER_TARGETS_RESET", 8192),
    ("RENDER_DEVICE_RESET", 8193), ("ACTIVEEVENT", 32768), ("VIDEORESIZE", 32769),
    ("VIDEOEXPOSE", 32770), ("MIDIIN", 32771), ("MIDIOUT", 32772), ("WINDOWSHOWN", 32774),
    ("WINDOWHIDDEN", 32775), ("WINDOWEXPOSED", 32776), ("WINDOWMOVED", 32777),
    ("WINDOWRESIZED", 32778), ("WINDOWSIZECHANGED", 32779), ("WINDOWMINIMIZED", 32780),
    ("WINDOWMAXIMIZED", 32781), ("WINDOWRESTORED", 32782), ("WINDOWENTER", 32783),
    ("WINDOWLEAVE", 32784), ("WINDOWFOCUSGAINED", 32785), ("WINDOWFOCUSLOST", 32786),
    ("WINDOWCLOSE", 32787), ("WINDOWTAKEFOCUS", 32788), ("WINDOWHITTEST", 32789),
    ("WINDOWICCPROFCHANGED", 32790), ("WINDOWDISPLAYCHANGED", 32791), ("USEREVENT", 32850),
    ("NUMEVENTS", 65535)]

/-- The keys that are held while another one is pressed, each a bit. -/
def modifiers : List (String × Int) :=
  [("KMOD_NONE", 0), ("KMOD_LSHIFT", 1), ("KMOD_RSHIFT", 2), ("KMOD_SHIFT", 3),
    ("KMOD_LCTRL", 64), ("KMOD_RCTRL", 128), ("KMOD_CTRL", 192), ("KMOD_LALT", 256),
    ("KMOD_RALT", 512), ("KMOD_ALT", 768), ("KMOD_LGUI", 1024), ("KMOD_LMETA", 1024),
    ("KMOD_RGUI", 2048), ("KMOD_RMETA", 2048), ("KMOD_GUI", 3072), ("KMOD_META", 3072),
    ("KMOD_NUM", 4096), ("KMOD_CAPS", 8192), ("KMOD_MODE", 16384)]

def places : List (String × Int) :=
  [("KSCAN_UNKNOWN", 0), ("KSCAN_A", 4), ("KSCAN_B", 5), ("KSCAN_C", 6), ("KSCAN_D", 7),
    ("KSCAN_E", 8), ("KSCAN_F", 9), ("KSCAN_G", 10), ("KSCAN_H", 11), ("KSCAN_I", 12),
    ("KSCAN_J", 13), ("KSCAN_K", 14), ("KSCAN_L", 15), ("KSCAN_M", 16), ("KSCAN_N", 17),
    ("KSCAN_O", 18), ("KSCAN_P", 19), ("KSCAN_Q", 20), ("KSCAN_R", 21), ("KSCAN_S", 22),
    ("KSCAN_T", 23), ("KSCAN_U", 24), ("KSCAN_V", 25), ("KSCAN_W", 26), ("KSCAN_X", 27),
    ("KSCAN_Y", 28), ("KSCAN_Z", 29), ("KSCAN_1", 30), ("KSCAN_2", 31), ("KSCAN_3", 32),
    ("KSCAN_4", 33), ("KSCAN_5", 34), ("KSCAN_6", 35), ("KSCAN_7", 36), ("KSCAN_8", 37),
    ("KSCAN_9", 38), ("KSCAN_0", 39), ("KSCAN_RETURN", 40), ("KSCAN_ESCAPE", 41),
    ("KSCAN_BACKSPACE", 42), ("KSCAN_TAB", 43), ("KSCAN_SPACE", 44), ("KSCAN_MINUS", 45),
    ("KSCAN_EQUALS", 46), ("KSCAN_LEFTBRACKET", 47), ("KSCAN_RIGHTBRACKET", 48),
    ("KSCAN_BACKSLASH", 49), ("KSCAN_NONUSHASH", 50), ("KSCAN_SEMICOLON", 51),
    ("KSCAN_APOSTROPHE", 52), ("KSCAN_GRAVE", 53), ("KSCAN_COMMA", 54), ("KSCAN_PERIOD", 55),
    ("KSCAN_SLASH", 56), ("KSCAN_CAPSLOCK", 57), ("KSCAN_F1", 58), ("KSCAN_F2", 59),
    ("KSCAN_F3", 60), ("KSCAN_F4", 61), ("KSCAN_F5", 62), ("KSCAN_F6", 63), ("KSCAN_F7", 64),
    ("KSCAN_F8", 65), ("KSCAN_F9", 66), ("KSCAN_F10", 67), ("KSCAN_F11", 68), ("KSCAN_F12", 69),
    ("KSCAN_PRINT", 70), ("KSCAN_PRINTSCREEN", 70), ("KSCAN_SCROLLOCK", 71),
    ("KSCAN_SCROLLLOCK", 71), ("KSCAN_PAUSE", 72), ("KSCAN_BREAK", 72), ("KSCAN_INSERT", 73),
    ("KSCAN_HOME", 74), ("KSCAN_PAGEUP", 75), ("KSCAN_DELETE", 76), ("KSCAN_END", 77),
    ("KSCAN_PAGEDOWN", 78), ("KSCAN_RIGHT", 79), ("KSCAN_LEFT", 80), ("KSCAN_DOWN", 81),
    ("KSCAN_UP", 82), ("KSCAN_NUMLOCK", 83), ("KSCAN_NUMLOCKCLEAR", 83), ("KSCAN_KP_DIVIDE", 84),
    ("KSCAN_KP_MULTIPLY", 85), ("KSCAN_KP_MINUS", 86), ("KSCAN_KP_PLUS", 87),
    ("KSCAN_KP_ENTER", 88), ("KSCAN_KP1", 89), ("KSCAN_KP_1", 89), ("KSCAN_KP2", 90),
    ("KSCAN_KP_2", 90), ("KSCAN_KP3", 91), ("KSCAN_KP_3", 91), ("KSCAN_KP4", 92),
    ("KSCAN_KP_4", 92), ("KSCAN_KP5", 93), ("KSCAN_KP_5", 93), ("KSCAN_KP6", 94),
    ("KSCAN_KP_6", 94), ("KSCAN_KP7", 95), ("KSCAN_KP_7", 95), ("KSCAN_KP8", 96),
    ("KSCAN_KP_8", 96), ("KSCAN_KP9", 97), ("KSCAN_KP_9", 97), ("KSCAN_KP0", 98),
    ("KSCAN_KP_0", 98), ("KSCAN_KP_PERIOD", 99), ("KSCAN_NONUSBACKSLASH", 100),
    ("KSCAN_POWER", 102), ("KSCAN_KP_EQUALS", 103), ("KSCAN_F13", 104), ("KSCAN_F14", 105),
    ("KSCAN_F15", 106), ("KSCAN_HELP", 117), ("KSCAN_MENU", 118), ("KSCAN_INTERNATIONAL1", 135),
    ("KSCAN_INTERNATIONAL2", 136), ("KSCAN_INTERNATIONAL3", 137), ("KSCAN_INTERNATIONAL4", 138),
    ("KSCAN_INTERNATIONAL5", 139), ("KSCAN_INTERNATIONAL6", 140), ("KSCAN_INTERNATIONAL7", 141),
    ("KSCAN_INTERNATIONAL8", 142), ("KSCAN_INTERNATIONAL9", 143), ("KSCAN_LANG1", 144),
    ("KSCAN_LANG2", 145), ("KSCAN_LANG3", 146), ("KSCAN_LANG4", 147), ("KSCAN_LANG5", 148),
    ("KSCAN_LANG6", 149), ("KSCAN_LANG7", 150), ("KSCAN_LANG8", 151), ("KSCAN_LANG9", 152),
    ("KSCAN_SYSREQ", 154), ("KSCAN_CLEAR", 156), ("KSCAN_CURRENCYUNIT", 180), ("KSCAN_EURO", 180),
    ("KSCAN_CURRENCYSUBUNIT", 181), ("KSCAN_LCTRL", 224), ("KSCAN_LSHIFT", 225),
    ("KSCAN_LALT", 226), ("KSCAN_LGUI", 227), ("KSCAN_LMETA", 227), ("KSCAN_LSUPER", 227),
    ("KSCAN_RCTRL", 228), ("KSCAN_RSHIFT", 229), ("KSCAN_RALT", 230), ("KSCAN_RGUI", 231),
    ("KSCAN_RMETA", 231), ("KSCAN_RSUPER", 231), ("KSCAN_MODE", 257), ("KSCAN_AC_BACK", 270)]

def displayFlags : List (String × Int) :=
  [("SWSURFACE", 0), ("HWSURFACE", 1), ("OPENGL", 2), ("ASYNCBLIT", 4), ("OPENGLBLIT", 10),
    ("RESIZABLE", 16), ("NOFRAME", 32), ("SHOWN", 64), ("HIDDEN", 128), ("HWACCEL", 256),
    ("SCALED", 512), ("SRCCOLORKEY", 4096), ("RLEACCELOK", 8192), ("RLEACCEL", 16384),
    ("SRCALPHA", 65536), ("PREALLOC", 16777216), ("ANYFORMAT", 268435456),
    ("HWPALETTE", 536870912), ("DOUBLEBUF", 1073741824), ("FULLSCREEN", -2147483648),
    ("APPMOUSEFOCUS", 1), ("APPINPUTFOCUS", 2), ("APPACTIVE", 4), ("TIMER_RESOLUTION", 0),
    ("LIL_ENDIAN", 1234), ("BIG_ENDIAN", 4321), ("HAVE_NEWBUF", 1), ("SCRAP_CLIPBOARD", 0),
    ("SCRAP_SELECTION", 1)]

def blendings : List (String × Int) :=
  [("BLEND_ADD", 1), ("BLEND_SUB", 2), ("BLEND_MULT", 3), ("BLEND_MIN", 4), ("BLEND_MAX", 5),
    ("BLEND_RGB_ADD", 1), ("BLEND_RGB_SUB", 2), ("BLEND_RGB_MULT", 3), ("BLEND_RGB_MIN", 4),
    ("BLEND_RGB_MAX", 5), ("BLEND_RGBA_ADD", 6), ("BLEND_RGBA_SUB", 7), ("BLEND_RGBA_MULT", 8),
    ("BLEND_RGBA_MIN", 9), ("BLEND_RGBA_MAX", 16), ("BLEND_PREMULTIPLIED", 17),
    ("BLEND_ALPHA_SDL2", 18), ("BLENDMODE_NONE", 0), ("BLENDMODE_BLEND", 1), ("BLENDMODE_ADD", 2),
    ("BLENDMODE_MOD", 4)]

def graphics : List (String × Int) :=
  [("GL_RED_SIZE", 0), ("GL_GREEN_SIZE", 1), ("GL_BLUE_SIZE", 2), ("GL_ALPHA_SIZE", 3),
    ("GL_BUFFER_SIZE", 4), ("GL_DOUBLEBUFFER", 5), ("GL_DEPTH_SIZE", 6), ("GL_STENCIL_SIZE", 7),
    ("GL_ACCUM_RED_SIZE", 8), ("GL_ACCUM_GREEN_SIZE", 9), ("GL_ACCUM_BLUE_SIZE", 10),
    ("GL_ACCUM_ALPHA_SIZE", 11), ("GL_STEREO", 12), ("GL_MULTISAMPLEBUFFERS", 13),
    ("GL_MULTISAMPLESAMPLES", 14), ("GL_ACCELERATED_VISUAL", 15),
    ("GL_CONTEXT_MAJOR_VERSION", 17), ("GL_CONTEXT_MINOR_VERSION", 18), ("GL_CONTEXT_FLAGS", 20),
    ("GL_CONTEXT_PROFILE_MASK", 21), ("GL_SHARE_WITH_CURRENT_CONTEXT", 22),
    ("GL_FRAMEBUFFER_SRGB_CAPABLE", 23), ("GL_CONTEXT_RELEASE_BEHAVIOR", 24),
    ("GL_CONTEXT_PROFILE_CORE", 1), ("GL_CONTEXT_PROFILE_COMPATIBILITY", 2),
    ("GL_CONTEXT_PROFILE_ES", 4), ("GL_CONTEXT_DEBUG_FLAG", 1),
    ("GL_CONTEXT_FORWARD_COMPATIBLE_FLAG", 2), ("GL_CONTEXT_ROBUST_ACCESS_FLAG", 4),
    ("GL_CONTEXT_RESET_ISOLATION_FLAG", 8), ("GL_CONTEXT_RELEASE_BEHAVIOR_NONE", 0),
    ("GL_CONTEXT_RELEASE_BEHAVIOR_FLUSH", 1), ("GL_SWAP_CONTROL", 0)]

def controls : List (String × Int) :=
  [("HAT_CENTERED", 0), ("HAT_UP", 1), ("HAT_RIGHT", 2), ("HAT_RIGHTUP", 3), ("HAT_DOWN", 4),
    ("HAT_RIGHTDOWN", 6), ("HAT_LEFT", 8), ("HAT_LEFTUP", 9), ("HAT_LEFTDOWN", 12),
    ("BUTTON_LEFT", 1), ("BUTTON_MIDDLE", 2), ("BUTTON_RIGHT", 3), ("BUTTON_WHEELUP", 4),
    ("BUTTON_WHEELDOWN", 5), ("BUTTON_X1", 6), ("BUTTON_X2", 7), ("CONTROLLER_AXIS_INVALID", -1),
    ("CONTROLLER_AXIS_LEFTX", 0), ("CONTROLLER_AXIS_LEFTY", 1), ("CONTROLLER_AXIS_RIGHTX", 2),
    ("CONTROLLER_AXIS_RIGHTY", 3), ("CONTROLLER_AXIS_TRIGGERLEFT", 4),
    ("CONTROLLER_AXIS_TRIGGERRIGHT", 5), ("CONTROLLER_AXIS_MAX", 6),
    ("CONTROLLER_BUTTON_INVALID", -1), ("CONTROLLER_BUTTON_A", 0), ("CONTROLLER_BUTTON_B", 1),
    ("CONTROLLER_BUTTON_X", 2), ("CONTROLLER_BUTTON_Y", 3), ("CONTROLLER_BUTTON_BACK", 4),
    ("CONTROLLER_BUTTON_GUIDE", 5), ("CONTROLLER_BUTTON_START", 6),
    ("CONTROLLER_BUTTON_LEFTSTICK", 7), ("CONTROLLER_BUTTON_RIGHTSTICK", 8),
    ("CONTROLLER_BUTTON_LEFTSHOULDER", 9), ("CONTROLLER_BUTTON_RIGHTSHOULDER", 10),
    ("CONTROLLER_BUTTON_DPAD_UP", 11), ("CONTROLLER_BUTTON_DPAD_DOWN", 12),
    ("CONTROLLER_BUTTON_DPAD_LEFT", 13), ("CONTROLLER_BUTTON_DPAD_RIGHT", 14),
    ("CONTROLLER_BUTTON_MAX", 21)]

/-- The forms of samples and how a sound device may change them. -/
def soundFormats : List (String × Int) :=
  [("AUDIO_U8", 8), ("AUDIO_S8", 32776), ("AUDIO_U16", 16), ("AUDIO_U16LSB", 16),
    ("AUDIO_U16SYS", 16), ("AUDIO_U16MSB", 4112), ("AUDIO_S16", 32784), ("AUDIO_S16LSB", 32784),
    ("AUDIO_S16SYS", 32784), ("AUDIO_S16MSB", 36880), ("AUDIO_ALLOW_FREQUENCY_CHANGE", 1),
    ("AUDIO_ALLOW_FORMAT_CHANGE", 2), ("AUDIO_ALLOW_CHANNELS_CHANGE", 4),
    ("AUDIO_ALLOW_ANY_CHANGE", 15)]

def pointers : List (String × Int) :=
  [("SYSTEM_CURSOR_ARROW", 0), ("SYSTEM_CURSOR_IBEAM", 1), ("SYSTEM_CURSOR_WAIT", 2),
    ("SYSTEM_CURSOR_CROSSHAIR", 3), ("SYSTEM_CURSOR_WAITARROW", 4), ("SYSTEM_CURSOR_SIZENWSE", 5),
    ("SYSTEM_CURSOR_SIZENESW", 6), ("SYSTEM_CURSOR_SIZEWE", 7), ("SYSTEM_CURSOR_SIZENS", 8),
    ("SYSTEM_CURSOR_SIZEALL", 9), ("SYSTEM_CURSOR_NO", 10), ("SYSTEM_CURSOR_HAND", 11)]

def numbers : List (String × Int) :=
  eventKinds ++ modifiers ++ places ++ displayFlags ++ blendings ++ graphics ++ controls
    ++ soundFormats ++ pointers

def things : List String :=
  ["BufferError", "BufferProxy", "Color", "Cursor", "Mask", "Overlay", "PixelArray", "Rect",
    "SDL", "SCRAP_BMP", "SCRAP_PBM", "SCRAP_PPM", "SCRAP_TEXT", "Surface", "SurfaceType",
    "Vector2", "Vector3", "base", "bufferproxy", "color", "colordict", "constants", "cursors",
    "display", "draw", "encode_file_path", "encode_string", "error", "event", "fastevent", "font",
    "get_array_interface", "get_error", "get_init", "get_sdl_byteorder", "get_sdl_version",
    "image", "imageext", "init", "joystick", "key", "mask", "math", "mixer", "mixer_music",
    "mouse", "pixelarray", "pixelcopy", "pkgdata", "quit", "rect", "register_quit", "rev",
    "rwobject", "scrap", "set_error", "sndarray", "sprite", "surface", "surfarray", "surflock",
    "sysfont", "threads", "time", "transform", "ver", "vernum", "version", "warn_unwanted_files"]

end Chip8.HostName
